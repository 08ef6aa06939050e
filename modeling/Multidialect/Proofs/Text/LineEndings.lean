import Multidialect.Proofs.Barrel
import Multidialect.Proofs.Text.Characters
import Multidialect.Proofs.Text.Sites
import Mathlib.Data.List.TakeWhile

/-! # Line feeds behind carriage returns

Texts in which every line feed follows a carriage return (`CrlfOnly`). They may be put one behind
another and may be cut where a line ends, so that the physical lines of such a text are such texts
again and all but the last end with both characters (`returnLines_physicalLines`). A part that does
not end in a carriage return may be exchanged for another such text (`CrlfOnly.exchange`).
-/

namespace Multidialect.Text

/-- Every line feed follows a carriage return. -/
def CrlfOnly (t : Text) : Prop :=
  ∀ before after, t = before ++ '\n' :: after → before.getLast? = some '\r'

/-- A text with a last character that is no carriage return. -/
def EndsApart (t : Text) : Prop := ∃ front c, t = front ++ [c] ∧ c ≠ '\r'

theorem EndsApart.append {t : Text} (h : EndsApart t) (front : Text) : EndsApart (front ++ t) := by
  obtain ⟨rest, c, rfl, hc⟩ := h
  exact ⟨front ++ rest, c, by simp, hc⟩

theorem endsApart_concat (front : Text) {c : Char} (hc : c ≠ '\r') : EndsApart (front ++ [c]) :=
  ⟨front, c, rfl, hc⟩

theorem endsApart_of_notMem {t : Text} (ht : t ≠ []) (h : '\r' ∉ t) : EndsApart t := by
  obtain ⟨front, c, rfl⟩ := List.eq_nil_or_concat t |>.resolve_left ht
  rw [List.concat_eq_append] at h ⊢
  exact ⟨front, c, rfl, fun hc => h (by simp [hc])⟩

theorem crlfOnly_iff {t : Text} :
    CrlfOnly t ↔ ∀ i < t.length, t[i]? = some '\n' → (t.take i).getLast? = some '\r' :=
  forall_split_iff

instance : DecidablePred CrlfOnly := fun _ => decidable_of_iff' _ crlfOnly_iff

namespace CrlfOnly

theorem of_notMem {t : Text} (h : '\n' ∉ t) : CrlfOnly t := by
  rintro before after rfl
  simp at h

theorem nil : CrlfOnly [] := of_notMem List.not_mem_nil

theorem append {a b : Text} (ha : CrlfOnly a) (hb : CrlfOnly b) : CrlfOnly (a ++ b) := by
  intro before after h
  rcases List.append_eq_append_iff.1 h with ⟨more, rfl, hmore⟩ | ⟨more, rfl, hmore⟩
  · rw [List.getLast?_append, hb more after hmore]
    rfl
  · cases more with
    | nil => cases hb [] after hmore.symm
    | cons c more =>
      obtain ⟨rfl, -⟩ := List.cons.inj hmore
      exact ha before more rfl

theorem left {a b : Text} (h : CrlfOnly (a ++ b)) : CrlfOnly a := by
  rintro before after rfl
  exact h before (after ++ b) (by simp)

/-- A text may be cut behind anything but a carriage return. -/
theorem right {a b : Text} (h : CrlfOnly (a ++ b)) (ha : EndsApart a) : CrlfOnly b := by
  rintro before after rfl
  obtain ⟨front, c, rfl, hc⟩ := ha
  have hlast := h (front ++ [c] ++ before) after (by simp)
  rcases List.eq_nil_or_concat before with rfl | ⟨more, d, rfl⟩
  · rw [List.append_nil, List.getLast?_concat] at hlast
    exact absurd (Option.some.inj hlast) hc
  · rw [List.concat_eq_append, ← List.append_assoc, List.getLast?_concat] at hlast
    rw [List.concat_eq_append, List.getLast?_concat, hlast]

theorem flatten {ts : List Text} (h : ∀ t ∈ ts, CrlfOnly t) : CrlfOnly ts.flatten := by
  induction ts with
  | nil => exact nil
  | cons t ts ih => exact (h t (.head _)).append (ih fun u hu => h u (.tail _ hu))

theorem join {sep : Text} {ts : List Text} (hsep : CrlfOnly sep) (h : ∀ t ∈ ts, CrlfOnly t) :
    CrlfOnly (join sep ts) := by
  unfold Text.join
  induction ts with
  | nil => exact nil
  | cons t ts ih =>
    cases ts with
    | nil => simpa using h t (.head _)
    | cons u ts =>
      rw [List.intercalate_cons_cons]
      exact ((h t (.head _)).append hsep).append (ih fun v hv => h v (.tail _ hv))

/-- A part that does not end in a carriage return may be exchanged for a text of the same kind. -/
theorem exchange {x old new y : Text} (h : CrlfOnly (x ++ old ++ y)) (hold : EndsApart old)
    (hnew : CrlfOnly new) : CrlfOnly (x ++ new ++ y) := by
  have hy : CrlfOnly y := h.right (hold.append x)
  rw [List.append_assoc] at h
  exact (h.left.append hnew).append hy

/-- A text may be put in behind anything but a carriage return. -/
theorem insert {x new y : Text} (h : CrlfOnly (x ++ y)) (hx : EndsApart x) (hnew : CrlfOnly new) :
    CrlfOnly (x ++ new ++ y) :=
  (h.left.append hnew).append (h.right hx)

theorem crlf : CrlfOnly Newline.crlf.text := by
  intro before after h
  cases before with
  | nil => simp [Newline.text] at h
  | cons b before =>
    obtain ⟨rfl, hrest⟩ := List.cons.inj h
    cases before with
    | nil => rfl
    | cons b' before => simp at hrest

/-- Line feeds that are spelled out with their carriage return. -/
theorem flatMap_crlf (t : Text) :
    CrlfOnly (t.flatMap fun c => if c = '\n' then Newline.crlf.text else [c]) := by
  induction t with
  | nil => exact nil
  | cons c t ih =>
    rw [List.flatMap_cons]
    refine append ?_ ih
    split
    · exact crlf
    · rename_i hc
      exact of_notMem (by simpa using Ne.symm hc)

end CrlfOnly

/-! ## Words -/

/-- A text that is not empty and in which no line ends. -/
structure IsWord (word : Text) : Prop where
  ne_nil : word ≠ []
  noReturn : '\r' ∉ word
  noFeed : '\n' ∉ word

theorem IsWord.crlfOnly {word : Text} (h : IsWord word) : CrlfOnly word := .of_notMem h.noFeed

theorem IsWord.endsApart {word : Text} (h : IsWord word) : EndsApart word :=
  endsApart_of_notMem h.ne_nil h.noReturn

theorem IsWord.append {a b : Text} (ha : IsWord a) (hb : IsWord b) : IsWord (a ++ b) where
  ne_nil := by simp [ha.ne_nil]
  noReturn := by simp [ha.noReturn, hb.noReturn]
  noFeed := by simp [ha.noFeed, hb.noFeed]

/-! ## Trimming -/

theorem notMem_trim {c : Char} {t : Text} (h : c ∉ t) : c ∉ trim t := by
  intro hc
  have hrev := (List.dropWhile_sublist isBlank).subset (List.mem_reverse.1 hc)
  exact h ((List.dropWhile_sublist isBlank).subset (List.mem_reverse.1 hrev))

theorem trimEnd_append_blank {a b : Text} (hb : ∀ c ∈ b, isBlank c = true) :
    trimEnd (a ++ b) = trimEnd a := by
  have hdrop : b.reverse.dropWhile isBlank = [] :=
    List.dropWhile_eq_nil_iff.2 fun c hc => hb c (List.mem_reverse.1 hc)
  simp [trimEnd, List.dropWhile_append, hdrop]

theorem trim_append_blank {a b : Text} (hb : ∀ c ∈ b, isBlank c = true) :
    trim (a ++ b) = trim a := by
  have hdrop : b.dropWhile isBlank = [] := List.dropWhile_eq_nil_iff.2 hb
  unfold trim trimStart
  rw [List.dropWhile_append]
  split
  · rename_i hnil
    rw [hdrop, List.isEmpty_iff.1 hnil]
  · exact trimEnd_append_blank hb

/-! ## Lines -/

/-- A physical line that is not the last one ends with a line feed. -/
theorem exists_feed_of_followed {t line : Text} {xs ys : List Text}
    (h : physicalLines t = xs ++ line :: ys) (hys : ys ≠ []) : ∃ body, line = body ++ ['\n'] := by
  induction t generalizing xs line with
  | nil => simp [physicalLines] at h
  | cons c cs ih =>
    simp only [physicalLines] at h
    split at h
    · rename_i hc
      cases xs with
      | nil =>
        obtain ⟨rfl, -⟩ := List.cons.inj h
        exact ⟨[], by rw [hc]; rfl⟩
      | cons x xs => exact ih (List.cons.inj h).2
    · split at h
      · cases xs with
        | nil => exact absurd (List.cons.inj h).2.symm hys
        | cons x xs => simp at h
      · rename_i first rest hs
        cases xs with
        | nil =>
          obtain ⟨rfl, rfl⟩ := List.cons.inj h
          have hfirst : physicalLines cs = [] ++ first :: rest := hs
          obtain ⟨body, rfl⟩ := ih hfirst
          exact ⟨c :: body, rfl⟩
        | cons x xs =>
          obtain ⟨-, rfl⟩ := List.cons.inj h
          have hlater : physicalLines cs = (first :: xs) ++ line :: ys := hs
          exact ih hlater

/-- Without white space around it a physical line holds no line feed. -/
theorem notMem_trim_of_mem_physicalLines {t line : Text} (h : line ∈ physicalLines t) :
    '\n' ∉ trim line := by
  obtain ⟨body, hbody, rfl | rfl⟩ := mem_physicalLines h
  · exact notMem_trim hbody
  · rw [trim_append_blank (b := ['\n']) (List.forall_mem_singleton.2 (by decide))]
    exact notMem_trim hbody

/-- Lines in which every line feed follows a carriage return, and which end with both unless nothing
follows. -/
def ReturnLines : List Text → Prop
  | [] => True
  | line :: rest =>
    CrlfOnly line ∧ (rest ≠ [] → terminator? line = some .crlf) ∧ ReturnLines rest

theorem ReturnLines.crlfOnly {ls : List Text} (h : ReturnLines ls) :
    ∀ line ∈ ls, CrlfOnly line := by
  induction ls with
  | nil => simp
  | cons line ls ih => exact List.forall_mem_cons.2 ⟨h.1, ih h.2.2⟩

theorem returnLines_of_split {ls : List Text}
    (h : ∀ xs line ys, ls = xs ++ line :: ys →
      CrlfOnly line ∧ (ys ≠ [] → terminator? line = some .crlf)) : ReturnLines ls := by
  induction ls with
  | nil => trivial
  | cons line ls ih =>
    obtain ⟨hline, hend⟩ := h [] line ls rfl
    exact ⟨hline, hend, ih fun xs l ys hl => h (line :: xs) l ys (by rw [hl]; rfl)⟩

theorem terminator?_append_feed {body : Text} (h : CrlfOnly (body ++ ['\n'])) :
    terminator? (body ++ ['\n']) = some .crlf := by
  obtain ⟨front, rfl⟩ := List.getLast?_eq_some_iff.1 (h body [] rfl)
  simp [terminator?]

/-- Where line feeds follow carriage returns no line ends with a line feed alone. -/
theorem terminator?_ne_lf {line : Text} (h : CrlfOnly line) : terminator? line ≠ some .lf := by
  unfold terminator?
  split
  · simp
  · rename_i rest hno hrev
    have hline : line = rest.reverse ++ ['\n'] := by simpa using congrArg List.reverse hrev
    obtain ⟨front, hfront⟩ := List.getLast?_eq_some_iff.1 (h rest.reverse [] hline)
    have hrest : rest = '\r' :: front.reverse := by simpa using congrArg List.reverse hfront
    exact absurd hrest (hno _)
  · simp

/-- **The physical lines of a text in which every line feed follows a carriage return.** -/
theorem returnLines_physicalLines {t : Text} (ht : CrlfOnly t) : ReturnLines (physicalLines t) := by
  refine returnLines_of_split fun xs line ys h => ?_
  have hline : CrlfOnly line := by
    rw [← flatten_physicalLines t, h, List.flatten_append, List.flatten_cons] at ht
    -- The lines in front end with a line feed, so the text may be cut behind them.
    rcases List.eq_nil_or_concat xs with rfl | ⟨front, last, rfl⟩
    · exact ht.left (a := line)
    · rw [List.concat_eq_append, List.append_assoc] at h
      obtain ⟨body, rfl⟩ := exists_feed_of_followed h (by simp)
      have hcut : EndsApart (front.concat (body ++ ['\n'])).flatten := by
        rw [List.concat_eq_append, List.flatten_concat, ← List.append_assoc]
        exact endsApart_concat _ (by decide)
      exact (ht.right hcut).left
  refine ⟨hline, fun hys => ?_⟩
  obtain ⟨body, rfl⟩ := exists_feed_of_followed h hys
  exact terminator?_append_feed hline

end Multidialect.Text
