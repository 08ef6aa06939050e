import Multidialect.Text.Lines
import Mathlib.Data.List.Basic

/-! # Physical lines and their contents

A physical line holds no line feed but perhaps one at its end, and behind it a new line starts
(`physicalLines_append`, `lines_induction`). It is its content with a terminator of white space
(`exists_content_append`). So the content of a line holds no line feed (`notMem_of_mem_lines`), it is
part of the text, behind lines that have ended (`exists_around_of_mem_lines`), and what is not white
space stands in a content.
-/

namespace Multidialect.Text

/-! ## Physical lines -/

/-- A physical line holds no line feed but perhaps one at its end. -/
theorem mem_physicalLines {t line : Text} (h : line ∈ physicalLines t) :
    ∃ body, '\n' ∉ body ∧ (line = body ∨ line = body ++ ['\n']) := by
  induction t generalizing line with
  | nil => simp [physicalLines] at h
  | cons c cs ih =>
    simp only [physicalLines] at h
    split at h
    · rename_i hc
      rcases List.mem_cons.1 h with rfl | h
      · exact ⟨[], by simp, .inr (by simp [hc])⟩
      · exact ih h
    · rename_i hc
      split at h
      · obtain rfl := List.mem_singleton.1 h
        exact ⟨[c], by simpa using Ne.symm hc, .inl rfl⟩
      · rename_i first rest hs
        rcases List.mem_cons.1 h with rfl | h
        · obtain ⟨body, hbody, hline⟩ := ih (hs ▸ List.mem_cons_self)
          refine ⟨c :: body, ?_, hline.imp (congrArg _) (congrArg _)⟩
          rw [List.mem_cons, not_or]
          exact ⟨Ne.symm hc, hbody⟩
        · exact ih (hs ▸ List.mem_cons_of_mem _ h)

theorem physicalLines_append {a rest : Text} (h : '\n' ∉ a) :
    physicalLines (a ++ '\n' :: rest) = (a ++ ['\n']) :: physicalLines rest := by
  induction a with
  | nil => simp [physicalLines]
  | cons c a ih =>
    obtain ⟨hc, ha⟩ := not_or.1 fun hm => h (List.mem_cons.2 hm)
    simp [physicalLines, ih ha, Ne.symm hc]

/-- What holds no line feed and starts where a line does is a part of this line. -/
theorem exists_line_of_notMem {a t u v : Text} (hu : '\n' ∉ u) (h : a ++ '\n' :: t = u ++ v) :
    ∃ more, a = u ++ more ∧ more ++ '\n' :: t = v := by
  rcases List.append_eq_append_iff.1 h with ⟨more, rfl, hmore⟩ | ⟨more, rfl, rfl⟩
  · cases more with
    | nil => exact ⟨[], by simp, hmore⟩
    | cons d more =>
      obtain ⟨rfl, -⟩ := List.cons.inj hmore
      simp at hu
  · exact ⟨more, rfl, rfl⟩

theorem physicalLines_of_notMem {t : Text} (h : '\n' ∉ t) (hne : t ≠ []) :
    physicalLines t = [t] := by
  induction t with
  | nil => exact absurd rfl hne
  | cons c t ih =>
    obtain ⟨hc, ht⟩ := not_or.1 fun hm => h (List.mem_cons.2 hm)
    rw [physicalLines, if_neg (Ne.symm hc)]
    by_cases hnil : t = []
    · rw [hnil]
      rfl
    · rw [ih ht hnil]

/-- A text is empty, or a last line, or a line in front of a text. -/
@[elab_as_elim]
theorem lines_induction {P : Text → Prop} (nil : P [])
    (last : ∀ a, '\n' ∉ a → a ≠ [] → P a)
    (line : ∀ a t, '\n' ∉ a → P t → P (a ++ '\n' :: t)) (t : Text) : P t := by
  induction hlen : t.length using Nat.strongRecOn generalizing t with
  | ind len ih =>
    by_cases hm : '\n' ∈ t
    · obtain ⟨a, rest, rfl, ha⟩ := List.eq_append_cons_of_mem hm
      exact line a rest ha (ih rest.length (by simp [← hlen]; omega) rest rfl)
    · by_cases hne : t = []
      · rw [hne]
        exact nil
      · exact last t hm hne

/-- Every line ends with a line feed. -/
def Closed (t : Text) : Prop := ∀ c ∈ t.getLast?, c = '\n'

theorem closed_nil : Closed [] := by simp [Closed]

theorem closed_append_feed {a t : Text} : Closed (a ++ '\n' :: t) ↔ Closed t := by
  have hlast : (a ++ '\n' :: t).getLast? = some (t.getLast?.getD '\n') := by
    rw [List.getLast?_append_of_ne_nil a (List.cons_ne_nil _ t), List.getLast?_cons]
  rw [Closed, Closed, hlast]
  cases t.getLast? <;> simp

theorem not_closed_of_notMem {t : Text} (h : '\n' ∉ t) (hne : t ≠ []) : ¬ Closed t := by
  intro hclosed
  have hlast := hclosed _ (List.getLast?_eq_some_getLast hne)
  exact h (hlast ▸ List.getLast_mem hne)

/-- Behind a line feed a new line starts. -/
theorem physicalLines_append_of_closed {u : Text} (h : Closed u) (v : Text) :
    physicalLines (u ++ v) = physicalLines u ++ physicalLines v := by
  induction u using lines_induction with
  | nil => rfl
  | last a ha hne => exact absurd h (not_closed_of_notMem ha hne)
  | line a t ha ih =>
    rw [List.append_assoc, List.cons_append, physicalLines_append ha, physicalLines_append ha,
      ih (closed_append_feed.1 h)]
    rfl

theorem unlines_singleton (line : Text) : unlines [line] = line := by
  simp [unlines, join, List.intercalate_singleton]

theorem unlines_cons_cons (line next : Text) (ls : List Text) :
    unlines (line :: next :: ls) = line ++ '\n' :: unlines (next :: ls) := by
  simp [unlines, join, List.intercalate_cons_cons]

theorem lines_append_feed {line : Text} (h : '\n' ∉ line) (t : Text) :
    lines (line ++ '\n' :: t) = content (line ++ ['\n']) :: lines t := by
  rw [lines, physicalLines_append h]
  rfl

/-! ## The content of a line -/

/-- A line is its content and a terminator, which is white space. -/
theorem exists_content_append (line : Text) :
    ∃ ending, line = content line ++ ending ∧ ∀ c ∈ ending, isBlank c = true := by
  have hreturn : isBlank '\r' = true := by decide
  have hfeed : isBlank '\n' = true := by decide
  unfold content
  split
  · rename_i rest h
    exact ⟨['\r', '\n'], by simpa using congrArg List.reverse h, by simp [hreturn, hfeed]⟩
  · rename_i rest _ h
    exact ⟨['\n'], by simpa using congrArg List.reverse h, by simp [hfeed]⟩
  · exact ⟨[], by simp, by simp⟩

theorem content_append_feed {line : Text} (h : line.getLast? ≠ some '\r') :
    content (line ++ ['\n']) = line := by
  unfold content
  rw [List.reverse_append]
  rcases List.eq_nil_or_concat line with rfl | ⟨front, c, rfl⟩
  · rfl
  · simp only [List.concat_eq_append, List.reverse_append, List.reverse_singleton,
      List.singleton_append] at h ⊢
    split
    · rename_i he
      simp only [List.cons.injEq, true_and] at he
      exact absurd (by simp [he.1]) h
    · rename_i he
      simp only [List.cons.injEq, true_and] at he
      simp [← he]
    · rename_i hno
      exact absurd rfl (hno _)

theorem content_append_return (front : Text) : content (front ++ ['\r', '\n']) = front := by
  simp [content]

theorem content_of_notMem {line : Text} (h : '\n' ∉ line) : content line = line := by
  unfold content
  split
  · rename_i he
    exact absurd (List.mem_reverse.1 (he ▸ List.mem_cons_self)) h
  · rename_i he
    exact absurd (List.mem_reverse.1 (he ▸ List.mem_cons_self)) h
  · rfl

/-- A content holds no line feed. -/
theorem notMem_of_mem_lines {t line : Text} (h : line ∈ lines t) : '\n' ∉ line := by
  obtain ⟨physical, hp, rfl⟩ := List.mem_map.1 h
  obtain ⟨body, hbody, rfl | rfl⟩ := mem_physicalLines hp
  · rwa [content_of_notMem hbody]
  · by_cases hlast : body.getLast? = some '\r'
    · obtain ⟨front, rfl⟩ := List.getLast?_eq_some_iff.1 hlast
      rw [List.append_assoc, List.singleton_append, content_append_return]
      exact fun hm => hbody (List.mem_append_left _ hm)
    · rwa [content_append_feed hlast]

/-- A line stands behind lines that have ended. -/
theorem exists_around_of_mem_lines {t line : Text} (h : line ∈ lines t) :
    ∃ front back, t = front ++ line ++ back ∧ Closed front := by
  induction t using lines_induction with
  | nil => cases h
  | last a ha hne =>
    rw [lines, physicalLines_of_notMem ha hne, List.map_singleton, List.mem_singleton,
      content_of_notMem ha] at h
    exact ⟨[], [], by simp [h], closed_nil⟩
  | line a t ha ih =>
    rw [lines_append_feed ha] at h
    rcases List.mem_cons.1 h with rfl | h
    · obtain ⟨ending, hline, -⟩ := exists_content_append (a ++ ['\n'])
      refine ⟨[], ending ++ t, ?_, closed_nil⟩
      rw [List.nil_append, ← List.append_assoc, ← hline, List.append_assoc]
      rfl
    · obtain ⟨front, back, rfl, hfront⟩ := ih h
      exact ⟨a ++ '\n' :: front, back, by simp, closed_append_feed.2 hfront⟩

/-- What stands in a content stands in the text. -/
theorem subset_of_mem_lines {t line : Text} (h : line ∈ lines t) : line ⊆ t := by
  obtain ⟨front, back, rfl, -⟩ := exists_around_of_mem_lines h
  intro c hc
  simp [hc]

end Multidialect.Text
