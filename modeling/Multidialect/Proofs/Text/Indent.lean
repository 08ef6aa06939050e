import Multidialect.Proofs.Text.Lines
import Multidialect.Text.Indent
import Mathlib.Data.List.TakeWhile

/-! # Blocks at a new indentation

What is moved to a new indentation keeps everything but white space, so it vanishes exactly if there
was nothing else (`reindent_eq_nil_iff`). Otherwise it is made of lines with line feeds between them
(`exists_lines_reindent`), and these may be written with another terminator
(`flatMap_exchange_unlines`).
-/

namespace Multidialect.Text

/-! ## What is not white space -/

theorem isBlankText_append (a b : Text) :
    isBlankText (a ++ b) = (isBlankText a && isBlankText b) := List.all_append

/-- Lines are blank one after another exactly if each of them is. -/
theorem isBlankText_unlines (ls : List Text) : isBlankText (unlines ls) = ls.all isBlankText := by
  have hfeed : isBlank '\n' = true := by decide
  induction ls with
  | nil => rfl
  | cons line ls ih =>
    cases ls with
    | nil => simp [unlines_singleton]
    | cons next ls =>
      rw [unlines_cons_cons, isBlankText_append, List.all_cons, ← ih]
      simp [isBlankText, hfeed]

/-- A text that is not blank has a line that is not. -/
theorem exists_line_of_not_blank {t : Text} (h : isBlankText t = false) :
    ∃ line ∈ lines t, isBlankText line = false := by
  rw [← flatten_physicalLines t] at h
  obtain ⟨c, hc, hblank⟩ := List.all_eq_false.1 h
  obtain ⟨physical, hp, hc⟩ := List.mem_flatten.1 hc
  obtain ⟨ending, hline, hending⟩ := exists_content_append physical
  refine ⟨content physical, List.mem_map_of_mem hp, List.all_eq_false.2 ⟨c, ?_, hblank⟩⟩
  rw [hline] at hc
  exact (List.mem_append.1 hc).resolve_right fun hm => hblank (hending c hm)

/-- A text is blank exactly if all its lines are. -/
theorem isBlankText_iff_lines {t : Text} :
    isBlankText t = true ↔ ∀ line ∈ lines t, isBlankText line = true := by
  constructor
  · intro h line hm
    exact List.all_eq_true.2 fun c hc => List.all_eq_true.1 h c (subset_of_mem_lines hm hc)
  · intro h
    by_contra hblank
    obtain ⟨line, hm, hline⟩ := exists_line_of_not_blank (Bool.not_eq_true _ ▸ hblank)
    rw [h line hm] at hline
    cases hline

/-! ## What each step keeps -/

theorem mem_dropWhile_isBlankText {line : Text} {ls : List Text} (h : line ∈ ls)
    (hline : isBlankText line = false) : line ∈ ls.dropWhile isBlankText := by
  rw [← ls.takeWhile_append_dropWhile (p := isBlankText)] at h
  refine (List.mem_append.1 h).resolve_left fun hm => ?_
  simp [List.mem_takeWhile_imp hm] at hline

theorem mem_trimBlankLines {line : Text} {ls : List Text} (h : line ∈ ls)
    (hline : isBlankText line = false) : line ∈ trimBlankLines ls :=
  List.mem_reverse.2
    (mem_dropWhile_isBlankText (List.mem_reverse.2 (mem_dropWhile_isBlankText h hline)) hline)

theorem commonIndent_le {line : Text} {ls : List Text} (h : line ∈ ls)
    (hline : isBlankText line = false) : commonIndent ls ≤ (indentation line).length := by
  unfold commonIndent
  have hmem : (indentation line).length ∈
      (ls.filter (!isBlankText ·)).map (indentation · |>.length) :=
    List.mem_map_of_mem (List.mem_filter.2 ⟨h, by simp [hline]⟩)
  cases hmin : ((ls.filter (!isBlankText ·)).map (indentation · |>.length)).min? with
  | none => exact Nat.zero_le _
  | some n => exact (List.min?_eq_some_iff.1 hmin).2 _ hmem

theorem isBlankText_indentation (line : Text) : isBlankText (indentation line) = true := by
  refine List.all_eq_true.2 fun c hc => ?_
  have hindent : isIndentChar c = true := List.mem_takeWhile_imp hc
  rcases (by simpa [isIndentChar] using hindent : c = ' ' ∨ c = '\t') with rfl | rfl <;> decide

/-- A line that is not blank keeps what is not white space when indentation is removed. -/
theorem isBlankText_drop {line : Text} {n : Nat} (hn : n ≤ (indentation line).length)
    (hline : isBlankText line = false) : isBlankText (line.drop n) = false := by
  have hfront : isBlankText (line.take n) = true := by
    have hfront : line.take n <+: indentation line :=
      List.prefix_of_prefix_length_le (List.take_prefix n line) (List.takeWhile_prefix _)
        ((List.length_take_le n line).trans hn)
    exact List.all_eq_true.2 fun c hc =>
      List.all_eq_true.1 (isBlankText_indentation line) c (hfront.subset hc)
  rwa [← List.take_append_drop n line, isBlankText_append, hfront, Bool.true_and] at hline

theorem isBlankText_dedent {t : Text} (h : isBlankText t = false) :
    isBlankText (dedent t) = false := by
  obtain ⟨line, hm, hline⟩ := exists_line_of_not_blank h
  rw [dedent, isBlankText_unlines]
  refine List.all_eq_false.2 ⟨line.drop (commonIndent (lines t)), ?_, ?_⟩
  · exact List.mem_map.2 ⟨line, hm, by simp [hline]⟩
  · simpa using isBlankText_drop (commonIndent_le hm hline) hline

/-! ## Moving a block -/

theorem isBlankText_reindent {t : Text} (h : isBlankText t = false) (indent : Text) :
    isBlankText (reindent t indent) = false := by
  obtain ⟨line, hm, hline⟩ := exists_line_of_not_blank h
  have htrimmed : isBlankText (unlines (trimBlankLines (lines t))) = false := by
    rw [isBlankText_unlines]
    exact List.all_eq_false.2 ⟨line, mem_trimBlankLines hm hline, by simp [hline]⟩
  obtain ⟨line, hm, hline⟩ := exists_line_of_not_blank (isBlankText_dedent htrimmed)
  rw [reindent, isBlankText_unlines]
  refine List.all_eq_false.2 ⟨indentLine indent line, List.mem_map_of_mem hm, ?_⟩
  have hne : line ≠ [] := by
    rintro rfl
    cases hline
  simp [indentLine, hne, isBlankText_append, hline]

/-- **A block vanishes** exactly if it is blank. -/
theorem reindent_eq_nil_iff {t indent : Text} : reindent t indent = [] ↔ isBlankText t = true := by
  constructor
  · intro h
    by_contra hblank
    have hkept := isBlankText_reindent (Bool.not_eq_true _ ▸ hblank) indent
    rw [h] at hkept
    cases hkept
  · intro h
    have hnone : trimBlankLines (lines t) = [] := by
      rw [trimBlankLines, List.dropWhile_eq_nil_iff.2 (isBlankText_iff_lines.1 h)]
      rfl
    rw [reindent, hnone]
    rfl

/-- A block at an indentation is made of lines. -/
theorem exists_lines_reindent (t : Text) {indent : Text} (hindent : '\n' ∉ indent) :
    ∃ ls, unlines ls = reindent t indent ∧ ∀ line ∈ ls, '\n' ∉ line := by
  refine ⟨_, rfl, fun line hm => ?_⟩
  obtain ⟨body, hbody, rfl⟩ := List.mem_map.1 hm
  unfold indentLine
  split
  · exact List.not_mem_nil
  · exact fun hfeed => (List.mem_append.1 hfeed).elim hindent (notMem_of_mem_lines hbody)

theorem notMem_indentation (line : Text) : '\n' ∉ indentation line := fun hm =>
  absurd (List.mem_takeWhile_imp hm) (by decide)

/-! ## Other terminators -/

theorem flatMap_exchange_of_notMem {line : Text} (h : '\n' ∉ line) (ending : Text) :
    (line.flatMap fun c => if c = '\n' then ending else [c]) = line := by
  have hsingle : ∀ c ∈ line, (if c = '\n' then ending else [c]) = [c] := fun c hc =>
    if_neg (ne_of_mem_of_not_mem hc h)
  rw [List.flatMap_congr hsingle, List.flatMap_singleton']

/-- **Lines with another terminator**: line feeds between lines are exchanged, and the last line gets
one more. -/
theorem flatMap_exchange_unlines {ls : List Text} (hne : ls ≠ [])
    (hls : ∀ line ∈ ls, '\n' ∉ line) (ending : Text) :
    ((unlines ls).flatMap fun c => if c = '\n' then ending else [c]) ++ ending =
      ls.flatMap (· ++ ending) := by
  induction ls with
  | nil => exact absurd rfl hne
  | cons line ls ih =>
    obtain ⟨hline, hrest⟩ := List.forall_mem_cons.1 hls
    cases ls with
    | nil => simp [unlines_singleton, flatMap_exchange_of_notMem hline]
    | cons next ls =>
      rw [unlines_cons_cons, List.flatMap_append, List.flatMap_cons, if_pos rfl,
        flatMap_exchange_of_notMem hline, List.append_assoc, List.append_assoc, ih (by simp) hrest,
        List.flatMap_cons (x := line), List.append_assoc]

end Multidialect.Text
