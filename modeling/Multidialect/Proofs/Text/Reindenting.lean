import Multidialect.Proofs.Text.CommonIndent

/-! # Blocks that are moved twice

A block that is moved to an indentation is what lies between its first and its last line that is not
blank. Its lines are written one after another and read again several times on the way, by which a line
can only lose a carriage return at its end (`forall₂_lines_unlines`). So what is moved is a block at its
new indentation (`IsBlockAt`), and where there are no carriage returns, moving it once more forgets the
first move (`reindent_absorbs`).
-/

namespace Multidialect.Text

variable {line line' indent : Text} {ls ls' : List Text}

/-! ## Lines that are written and read again -/

/-- A line, and what is read of it where it is written in front of a line feed or as the last one. -/
def Reread (line line' : Text) : Prop := line = line' ∨ line = line' ++ ['\r']

theorem reread_content (line : Text) : Reread line (content (line ++ ['\n'])) := by
  by_cases hreturn : line.getLast? = some '\r'
  · obtain ⟨front, rfl⟩ := List.getLast?_eq_some_iff.1 hreturn
    rw [List.append_assoc, List.singleton_append, content_append_return]
    exact .inr rfl
  · rw [content_append_feed hreturn]
    exact .inl rfl

/-- **Lines that are written one after another** are read again, all of them, and a line loses at most a
carriage return. -/
theorem forall₂_lines_unlines (hfeed : ∀ line ∈ ls, '\n' ∉ line) (hlast : ls.getLast? ≠ some []) :
    List.Forall₂ Reread ls (lines (unlines ls)) := by
  induction ls with
  | nil => exact .nil
  | cons line ls ih =>
    obtain ⟨hline, hrest⟩ := List.forall_mem_cons.1 hfeed
    cases ls with
    | nil =>
      have hne : line ≠ [] := fun hnil => hlast (by rw [hnil]; rfl)
      rw [unlines_singleton, lines, physicalLines_of_notMem hline hne, List.map_singleton,
        content_of_notMem hline]
      exact .cons (.inl rfl) .nil
    | cons next ls =>
      rw [unlines_cons_cons, lines_append_feed hline]
      exact .cons (reread_content line) (ih hrest (by rwa [List.getLast?_cons_cons] at hlast))

theorem exists_of_mem_right {R : Text → Text → Prop} (h : List.Forall₂ R ls ls')
    (hm : line' ∈ ls') : ∃ line ∈ ls, R line line' := by
  induction h with
  | nil => cases hm
  | cons hr _ ih =>
    rcases List.mem_cons.1 hm with rfl | hm
    · exact ⟨_, .head _, hr⟩
    · obtain ⟨line, hl, hr⟩ := ih hm
      exact ⟨line, .tail _ hl, hr⟩

theorem exists_of_mem_left {R : Text → Text → Prop} (h : List.Forall₂ R ls ls')
    (hm : line ∈ ls) : ∃ line' ∈ ls', R line line' :=
  exists_of_mem_right (List.Forall₂.flip h) hm

namespace Reread

theorem isBlankText_eq (h : Reread line line') : isBlankText line = isBlankText line' := by
  have hreturn : isBlankText ['\r'] = true := by decide
  rcases h with rfl | rfl
  · rfl
  · rw [isBlankText_append, hreturn, Bool.and_true]

theorem eq_of_notMem (h : Reread line line') (hreturn : '\r' ∉ line) : line' = line := by
  rcases h with rfl | rfl
  · rfl
  · simp at hreturn

/-- What follows the indentation of a line goes on as before. -/
theorem exists_append {c : Char} {rest : Text} (h : Reread line line')
    (hindent : isBlankText indent = true) (hline : line = indent ++ c :: rest)
    (hblank : isBlankText line = false) : ∃ rest', line' = indent ++ c :: rest' := by
  rcases h with rfl | rfl
  · exact ⟨rest, hline⟩
  · rw [isBlankText_append] at hblank
    have hline' : isBlankText line' = false := by
      cases hl : isBlankText line' with
      | false => rfl
      | true =>
        rw [hl] at hblank
        exact absurd hblank (by decide)
    rcases List.append_eq_append_iff.1 hline with ⟨more, hmore, -⟩ | ⟨more, rfl, hmore⟩
    · -- The whole line would be part of the indentation.
      rw [hmore, isBlankText_append, hline', Bool.false_and] at hindent
      cases hindent
    · cases more with
      | nil =>
        rw [List.append_nil, hindent] at hline'
        cases hline'
      | cons d more =>
        obtain ⟨rfl, -⟩ := List.cons.inj hmore
        exact ⟨more, rfl⟩

end Reread

/-! ## Blocks -/

/-- Lines of which the first and the last one are not blank. -/
structure Trimmed (ls : List Text) : Prop where
  first : ∃ line ∈ ls.head?, isBlankText line = false
  last : ∃ line ∈ ls.getLast?, isBlankText line = false

/-- A block at an indentation: it starts and ends with lines that are not blank, its blank lines are
empty, and the others start with the indentation, behind which not all of them are indented further. -/
structure IsBlockAt (indent : Text) (ls : List Text) : Prop extends Trimmed ls where
  blank : ∀ line ∈ ls, isBlankText line = true → line = []
  starts : ∀ line ∈ ls, isBlankText line = false → indent <+: line
  flush : ∃ line ∈ ls, isBlankText line = false ∧
    ∃ c rest, line = indent ++ c :: rest ∧ isIndentChar c = false

theorem isBlankText_of_indent (h : ∀ c ∈ indent, isIndentChar c = true) :
    isBlankText indent = true := by
  have hself : indentation indent = indent := List.takeWhile_eq_self_iff.2 h
  rw [← hself]
  exact isBlankText_indentation indent

theorem ne_nil_of_not_blank (h : isBlankText line = false) : line ≠ [] := by
  rintro rfl
  cases h

namespace Trimmed

theorem getLast?_ne (h : Trimmed ls) : ls.getLast? ≠ some [] := by
  obtain ⟨line, hline, hblank⟩ := h.last
  rw [hline]
  exact fun he => ne_nil_of_not_blank hblank (Option.some.inj he)

theorem congr (h : Trimmed ls)
    (hls : List.Forall₂ (fun line line' => isBlankText line = isBlankText line') ls ls') :
    Trimmed ls' := by
  have hhead : ∀ {xs ys : List Text},
      List.Forall₂ (fun line line' => isBlankText line = isBlankText line') xs ys →
        (∃ line ∈ xs.head?, isBlankText line = false) → ∃ line ∈ ys.head?, isBlankText line = false := by
    rintro xs ys (_ | ⟨hxy, _⟩) ⟨line, hline, hblank⟩
    · cases hline
    · obtain rfl := Option.some.inj hline
      exact ⟨_, rfl, hxy ▸ hblank⟩
  refine ⟨hhead hls h.first, ?_⟩
  rw [← List.head?_reverse]
  exact hhead (List.forall₂_reverse_iff.2 hls) (by rw [List.head?_reverse]; exact h.last)

theorem exists_not_blank (h : Trimmed ls) : ∃ line ∈ ls, isBlankText line = false := by
  obtain ⟨line, hline, hblank⟩ := h.first
  exact ⟨line, List.mem_of_mem_head? hline, hblank⟩

theorem indentations_ne_nil (h : Trimmed ls) : indentations ls ≠ [] := by
  obtain ⟨line, hm, hline⟩ := h.exists_not_blank
  exact List.ne_nil_of_mem (mem_indentations.2 ⟨line, hm, hline, rfl⟩)

theorem reread (h : Trimmed ls) (hls : List.Forall₂ Reread ls ls') : Trimmed ls' :=
  h.congr (hls.imp fun _ _ => Reread.isBlankText_eq)

theorem map {f : Text → Text} (h : Trimmed ls)
    (hf : ∀ line ∈ ls, isBlankText (f line) = isBlankText line) : Trimmed (ls.map f) :=
  h.congr (List.forall₂_map_right_iff.2 (List.forall₂_same.2 fun line hm => (hf line hm).symm))

end Trimmed

/-! ## From step to step -/

theorem isBlankText_outdent {n : Nat} (hle : isBlankText line = false → n ≤ (indentation line).length) :
    isBlankText (if isBlankText line then [] else line.drop n) = isBlankText line := by
  cases hline : isBlankText line with
  | true => rfl
  | false => simpa using isBlankText_drop (hle hline) hline

/-- Lines without their common indentation are a block at none. -/
theorem Trimmed.isBlockAt_outdentLines (h : Trimmed ls) :
    IsBlockAt [] (outdentLines (commonIndent ls) ls) where
  toTrimmed := h.map fun line hm => isBlankText_outdent (commonIndent_le hm)
  blank := by
    intro line hm hline
    obtain ⟨line, hl, rfl⟩ := List.mem_map.1 hm
    rw [isBlankText_outdent (commonIndent_le hl)] at hline
    rw [if_pos hline]
  starts _ _ _ := List.nil_prefix
  flush := by
    obtain ⟨x, hx, hlength⟩ := exists_length_eq_commonIndent h.indentations_ne_nil
    obtain ⟨line, hm, hline, rfl⟩ := mem_indentations.1 hx
    have hkept := isBlankText_drop (commonIndent_le hm hline) hline
    obtain ⟨c, rest, hrest⟩ := List.exists_cons_of_ne_nil (ne_nil_of_not_blank hkept)
    refine ⟨_, List.mem_map_of_mem hm, ?_, c, rest, ?_, ?_⟩
    · rwa [isBlankText_outdent (commonIndent_le hm)]
    · rw [hline, if_neg Bool.false_ne_true, hrest]
      rfl
    · -- The line loses all of its indentation.
      have hlost := congrArg List.length (loses_of_le (commonIndent_le hm hline)).indentation_eq
      rw [List.length_append, List.length_take_of_le (hlength ▸ length_indentation_le line), hlength,
        Nat.left_eq_add, List.length_eq_zero_iff, hrest] at hlost
      simpa [indentation] using hlost

namespace IsBlockAt

theorem reread (h : IsBlockAt indent ls) (hindent : isBlankText indent = true)
    (hls : List.Forall₂ Reread ls ls') : IsBlockAt indent ls' where
  toTrimmed := h.toTrimmed.reread hls
  blank := by
    intro line' hm hblank
    obtain ⟨line, hl, hr⟩ := exists_of_mem_right hls hm
    have hnil := h.blank line hl (hr.isBlankText_eq.trans hblank)
    rw [hr.eq_of_notMem (by simp [hnil]), hnil]
  starts := by
    intro line' hm hblank
    obtain ⟨line, hl, hr⟩ := exists_of_mem_right hls hm
    have hline : isBlankText line = false := hr.isBlankText_eq.trans hblank
    obtain ⟨rest, hrest⟩ := h.starts line hl hline
    cases rest with
    | nil =>
      rw [List.append_nil] at hrest
      rw [← hrest, hindent] at hline
      cases hline
    | cons c rest =>
      obtain ⟨rest', rfl⟩ := hr.exists_append hindent hrest.symm hline
      exact List.prefix_append _ _
  flush := by
    obtain ⟨line, hl, hline, c, rest, hrest, hc⟩ := h.flush
    obtain ⟨line', hm, hr⟩ := exists_of_mem_left hls hl
    obtain ⟨rest', hrest'⟩ := hr.exists_append hindent hrest hline
    exact ⟨line', hm, hr.isBlankText_eq ▸ hline, c, rest', hrest', hc⟩

theorem isBlankText_indentLine (hindent : isBlankText indent = true) (line : Text) :
    isBlankText (indentLine indent line) = isBlankText line := by
  rw [indentLine]
  split
  · rename_i hnil
    rw [hnil]
  · rw [isBlankText_append, hindent, Bool.true_and]

/-- A block at no indentation is one at any to which its lines are moved. -/
theorem map_indentLine (h : IsBlockAt [] ls) (hindent : isBlankText indent = true) :
    IsBlockAt indent (ls.map (indentLine indent)) where
  toTrimmed := h.toTrimmed.map fun line _ => isBlankText_indentLine hindent line
  blank := by
    intro line hm hblank
    obtain ⟨line, hl, rfl⟩ := List.mem_map.1 hm
    rw [isBlankText_indentLine hindent] at hblank
    rw [h.blank line hl hblank]
    rfl
  starts := by
    intro line hm hblank
    obtain ⟨line, hl, rfl⟩ := List.mem_map.1 hm
    rw [isBlankText_indentLine hindent] at hblank
    rw [indentLine, if_neg (ne_nil_of_not_blank hblank)]
    exact List.prefix_append _ _
  flush := by
    obtain ⟨line, hl, hline, c, rest, hrest, hc⟩ := h.flush
    refine ⟨_, List.mem_map_of_mem hl, ?_, c, rest, ?_, hc⟩
    · rwa [isBlankText_indentLine hindent]
    · rw [indentLine, if_neg (ne_nil_of_not_blank hline), hrest]
      rfl

/-- What follows the indentation is indented no further on some line. -/
theorem commonIndent_eq (h : IsBlockAt indent ls) (hindent : ∀ c ∈ indent, isIndentChar c = true) :
    commonIndent ls = indent.length := by
  obtain ⟨line, hl, hline, c, rest, rfl, hc⟩ := h.flush
  have hstop : indentation (c :: rest) = [] := by simp [indentation, hc]
  have hself : indentation (indent ++ c :: rest) = indent := by
    rw [indentation_append hindent, hstop, List.append_nil]
  refine commonIndent_eq_of_least (mem_indentations.2 ⟨_, hl, hline, hself⟩) fun x hx => ?_
  obtain ⟨line, hm, hblank, rfl⟩ := mem_indentations.1 hx
  obtain ⟨rest, rfl⟩ := h.starts line hm hblank
  rw [indentation_append hindent, List.length_append]
  exact Nat.le_add_right _ _

/-- Lines that are moved to an indentation lose it again. -/
theorem outdentLines_map_indentLine (h : IsBlockAt [] ls)
    (hindent : ∀ c ∈ indent, isIndentChar c = true) :
    outdentLines (commonIndent (ls.map (indentLine indent))) (ls.map (indentLine indent)) = ls := by
  have hblankIndent := isBlankText_of_indent hindent
  rw [(h.map_indentLine hblankIndent).commonIndent_eq hindent, outdentLines, List.map_map]
  refine (List.map_congr_left fun line hm => ?_).trans (List.map_id ls)
  rw [Function.comp_apply, isBlankText_indentLine hblankIndent]
  cases hline : isBlankText line with
  | true => rw [h.blank line hm hline]; rfl
  | false =>
    rw [if_neg Bool.false_ne_true, indentLine, if_neg (ne_nil_of_not_blank hline), List.drop_left]
    rfl

end IsBlockAt

/-! ## The lines of a block -/

/-- The lines around a trimmed block are blank. -/
theorem exists_around_trimBlankLines (ls : List Text) :
    ∃ before after, ls = before ++ trimBlankLines ls ++ after ∧
      ∀ line ∈ before ++ after, isBlankText line = true := by
  have hfront := ls.takeWhile_append_dropWhile (p := isBlankText)
  have hback := (ls.dropWhile isBlankText).reverse.takeWhile_append_dropWhile (p := isBlankText)
  refine ⟨ls.takeWhile isBlankText, ((ls.dropWhile isBlankText).reverse.takeWhile isBlankText).reverse,
    ?_, fun line hm => ?_⟩
  · rw [List.append_assoc, trimBlankLines, ← List.reverse_append, hback, List.reverse_reverse, hfront]
  · rcases List.mem_append.1 hm with hm | hm
    · exact List.mem_takeWhile_imp hm
    · exact List.mem_takeWhile_imp (List.mem_reverse.1 hm)

theorem exists_head?_dropWhile (h : ls.dropWhile isBlankText ≠ []) :
    ∃ line ∈ (ls.dropWhile isBlankText).head?, isBlankText line = false := by
  obtain ⟨line, rest, hrest⟩ := List.exists_cons_of_ne_nil h
  have hnot := List.head?_dropWhile_not isBlankText ls
  rw [hrest] at hnot ⊢
  exact ⟨line, rfl, hnot⟩

theorem trimmed_trimBlankLines (h : ∃ line ∈ ls, isBlankText line = false) :
    Trimmed (trimBlankLines ls) := by
  obtain ⟨line, hm, hline⟩ := h
  have hfront := mem_dropWhile_isBlankText hm hline
  have hback := mem_dropWhile_isBlankText (List.mem_reverse.2 hfront) hline
  constructor
  · -- Only the end is taken off the lines from the first one on that is not blank.
    obtain ⟨first, hfirst, hblank⟩ := exists_head?_dropWhile (List.ne_nil_of_mem hfront)
    have hprefix : trimBlankLines ls <+: ls.dropWhile isBlankText := by
      have hsuffix := List.dropWhile_suffix isBlankText (l := (ls.dropWhile isBlankText).reverse)
      rwa [← List.reverse_prefix, List.reverse_reverse] at hsuffix
    obtain ⟨more, hmore⟩ := hprefix
    obtain ⟨kept, rest, hkept⟩ := List.exists_cons_of_ne_nil
      (List.ne_nil_of_mem (mem_trimBlankLines hm hline))
    rw [← hmore, hkept] at hfirst
    exact ⟨first, by rw [hkept]; exact hfirst, hblank⟩
  · rw [trimBlankLines, List.getLast?_reverse]
    exact exists_head?_dropWhile (List.ne_nil_of_mem hback)

theorem dropWhile_of_head? (h : ∃ line ∈ ls.head?, isBlankText line = false) :
    ls.dropWhile isBlankText = ls := by
  obtain ⟨line, hline, hblank⟩ := h
  obtain ⟨rest, rfl⟩ := List.head?_eq_some_iff.1 hline
  simp [hblank]

theorem Trimmed.trimBlankLines_eq (h : Trimmed ls) : trimBlankLines ls = ls := by
  rw [trimBlankLines, dropWhile_of_head? h.first,
    dropWhile_of_head? (by rw [List.head?_reverse]; exact h.last), List.reverse_reverse]

theorem mem_of_mem_trimBlankLines (h : line ∈ trimBlankLines ls) : line ∈ ls :=
  (List.dropWhile_sublist _).subset (List.mem_reverse.1
    ((List.dropWhile_sublist _).subset (List.mem_reverse.1 h)))

/-! ## Moving a block -/

theorem notMem_outdentLines {c : Char} {n : Nat} (h : ∀ line ∈ ls, c ∉ line) :
    ∀ line ∈ outdentLines n ls, c ∉ line := by
  intro line hm
  obtain ⟨line, hl, rfl⟩ := List.mem_map.1 hm
  split
  · exact List.not_mem_nil
  · exact fun hc => h line hl (List.mem_of_mem_drop hc)

theorem notMem_map_indentLine {c : Char} (hindent : c ∉ indent) (h : ∀ line ∈ ls, c ∉ line) :
    ∀ line ∈ ls.map (indentLine indent), c ∉ line := by
  intro line hm
  obtain ⟨line, hl, rfl⟩ := List.mem_map.1 hm
  rw [indentLine]
  split
  · exact List.not_mem_nil
  · exact fun hc => (List.mem_append.1 hc).elim hindent (h line hl)

theorem notMem_of_indent {c : Char} (hindent : ∀ c ∈ indent, isIndentChar c = true)
    (hc : isIndentChar c = false) : c ∉ indent := fun hm => by
  rw [hindent c hm] at hc
  cases hc

/-- **What is moved is a block** at its new indentation, with as many lines as there are from the first to
the last one that is not blank. -/
theorem exists_block_reindent {t : Text} (h : ∃ line ∈ lines t, isBlankText line = false)
    (hindent : ∀ c ∈ indent, isIndentChar c = true) :
    ∃ ls, reindent t indent = unlines ls ∧ IsBlockAt indent ls ∧ (∀ line ∈ ls, '\n' ∉ line) ∧
      ls.length = (trimBlankLines (lines t)).length := by
  have htrimmed := trimmed_trimBlankLines h
  have hwritten := forall₂_lines_unlines
    (fun line hm => notMem_of_mem_lines (mem_of_mem_trimBlankLines hm)) htrimmed.getLast?_ne
  have hblock := (htrimmed.reread hwritten).isBlockAt_outdentLines
  have hagain := forall₂_lines_unlines
    (notMem_outdentLines fun line hm => notMem_of_mem_lines hm) hblock.getLast?_ne
  refine ⟨_, rfl, (hblock.reread rfl hagain).map_indentLine (isBlankText_of_indent hindent),
    notMem_map_indentLine (notMem_of_indent hindent (by decide)) fun line hm => notMem_of_mem_lines hm, ?_⟩
  rw [List.length_map, dedent, ← hagain.length_eq, outdentLines, List.length_map, ← hwritten.length_eq]

theorem lines_unlines (hfeed : ∀ line ∈ ls, '\n' ∉ line) (hreturn : ∀ line ∈ ls, '\r' ∉ line)
    (hlast : ls.getLast? ≠ some []) : lines (unlines ls) = ls := by
  have hall : ∀ {xs ys : List Text}, List.Forall₂ Reread xs ys → (∀ line ∈ xs, '\r' ∉ line) → ys = xs := by
    intro xs ys hxs hxr
    induction hxs with
    | nil => rfl
    | cons hr _ ih =>
      obtain ⟨hx, hxr⟩ := List.forall_mem_cons.1 hxr
      rw [hr.eq_of_notMem hx, ih hxr]
  exact hall (forall₂_lines_unlines hfeed hlast) hreturn

/-- A block is moved line by line. -/
theorem Trimmed.reindent_unlines (h : Trimmed ls) (hfeed : ∀ line ∈ ls, '\n' ∉ line)
    (hreturn : ∀ line ∈ ls, '\r' ∉ line) (indent : Text) :
    reindent (unlines ls) indent =
      unlines ((outdentLines (commonIndent ls) ls).map (indentLine indent)) := by
  rw [reindent, dedent, lines_unlines hfeed hreturn h.getLast?_ne, h.trimBlankLines_eq,
    lines_unlines hfeed hreturn h.getLast?_ne, lines_unlines (notMem_outdentLines hfeed)
      (notMem_outdentLines hreturn) h.isBlockAt_outdentLines.getLast?_ne]

/-- **Moving a block twice** moves it to the second indentation. -/
theorem reindent_reindent {t i : Text} (ht : '\r' ∉ t) (hi : ∀ c ∈ i, isIndentChar c = true)
    (j : Text) : reindent (reindent t i) j = reindent t j := by
  cases hblank : isBlankText t with
  | true =>
    rw [reindent_eq_nil_iff.2 hblank, reindent_eq_nil_iff.2 hblank]
    exact reindent_eq_nil_iff.2 rfl
  | false =>
    have hblock : Trimmed (trimBlankLines (lines t)) :=
      trimmed_trimBlankLines (exists_line_of_not_blank hblank)
    have hfeed : ∀ line ∈ trimBlankLines (lines t), '\n' ∉ line := fun line hm =>
      notMem_of_mem_lines (mem_of_mem_trimBlankLines hm)
    have hreturn : ∀ line ∈ trimBlankLines (lines t), '\r' ∉ line := fun line hm hc =>
      ht (subset_of_mem_lines (mem_of_mem_trimBlankLines hm) hc)
    have hmoved : ∀ k, reindent t k = reindent (unlines (trimBlankLines (lines t))) k := by
      intro k
      rw [reindent, reindent, lines_unlines hfeed hreturn hblock.getLast?_ne, hblock.trimBlankLines_eq]
    have hout := hblock.isBlockAt_outdentLines
    rw [hmoved i, hmoved j, hblock.reindent_unlines hfeed hreturn, hblock.reindent_unlines hfeed hreturn,
      (hout.map_indentLine (isBlankText_of_indent hi)).toTrimmed.reindent_unlines
        (notMem_map_indentLine (notMem_of_indent hi (by decide)) (notMem_outdentLines hfeed))
        (notMem_map_indentLine (notMem_of_indent hi (by decide)) (notMem_outdentLines hreturn)),
      hout.outdentLines_map_indentLine hi]

theorem getLast?_unlines (h : ls.getLast? = some line) (hne : line ≠ []) :
    (unlines ls).getLast? = line.getLast? := by
  induction ls with
  | nil => cases h
  | cons first ls ih =>
    cases ls with
    | nil =>
      have hfirst : first = line := by simpa using h
      rw [unlines_singleton, hfirst]
    | cons next ls =>
      rw [List.getLast?_cons_cons] at h
      obtain ⟨front, c, rfl⟩ := List.eq_nil_or_concat line |>.resolve_left hne
      have hrest := ih h
      rw [List.concat_eq_append, List.getLast?_concat] at hrest ⊢
      rw [unlines_cons_cons, List.getLast?_append, List.getLast?_cons, hrest]
      rfl

/-- **Moving a block absorbs** an earlier move, if there are no carriage returns. Nothing is left of a
blank text. Of any other one the lines from the first to the last one that is not blank are left, without a
line feed behind them, and they are a block at the indentation. -/
theorem reindent_absorbs {i : Text} (t : Text) (hi : ∀ c ∈ i, isIndentChar c = true) :
    ('\r' ∉ t → ∀ j : Text, reindent (reindent t i) j = reindent t j) ∧
      (reindent t i = [] ↔ ∀ line ∈ lines t, isBlankText line = true) ∧
      ((∃ line ∈ lines t, isBlankText line = false) →
        (∃ before block after, lines t = before ++ block ++ after ∧
            (∀ line ∈ before ++ after, isBlankText line = true) ∧ Trimmed block ∧
            (lines (reindent t i)).length = block.length) ∧
          (reindent t i).getLast? ≠ some '\n' ∧ IsBlockAt i (lines (reindent t i))) := by
  refine ⟨fun ht j => reindent_reindent ht hi j, reindent_eq_nil_iff.trans isBlankText_iff_lines, ?_⟩
  intro h
  obtain ⟨ls, hmoved, hblock, hfeed, hlength⟩ := exists_block_reindent h hi
  have hlines := forall₂_lines_unlines hfeed hblock.getLast?_ne
  rw [hmoved]
  refine ⟨?_, ?_, hblock.reread (isBlankText_of_indent hi) hlines⟩
  · obtain ⟨before, after, hsplit, hblank⟩ := exists_around_trimBlankLines (lines t)
    exact ⟨before, _, after, hsplit, hblank, trimmed_trimBlankLines h,
      hlines.length_eq.symm.trans hlength⟩
  · obtain ⟨last, hlast, hblank⟩ := hblock.last
    rw [getLast?_unlines hlast (ne_nil_of_not_blank hblank)]
    exact fun hend => hfeed last (List.mem_of_getLast? hlast) (List.mem_of_getLast? hend)

/-- A block between blank lines, with a blank line in it and a line that is indented by a tab as well. -/
theorem reindent_absorbs_uneven :
    (∀ c ∈ "    ".toList, isIndentChar c = true) ∧ '\r' ∉ "\n  a\n \n\t  b\n\n".toList ∧
      reindent (reindent "\n  a\n \n\t  b\n\n".toList "    ".toList) "\t".toList =
        reindent "\n  a\n \n\t  b\n\n".toList "\t".toList ∧
      reindent "\n  a\n \n\t  b\n\n".toList "    ".toList = "    a\n\n     b".toList ∧
      IsBlockAt "    ".toList (lines "    a\n\n     b".toList) := by
  have hindent : ∀ c ∈ "    ".toList, isIndentChar c = true := List.all_eq_true.1 (by decide)
  have hreturn : '\r' ∉ "\n  a\n \n\t  b\n\n".toList := by decide
  have hline : ∃ line ∈ lines "\n  a\n \n\t  b\n\n".toList, isBlankText line = false := by
    decide +kernel
  have hmoved : reindent "\n  a\n \n\t  b\n\n".toList "    ".toList = "    a\n\n     b".toList := by
    decide +kernel
  obtain ⟨habsorbs, -, hblock⟩ := reindent_absorbs "\n  a\n \n\t  b\n\n".toList hindent
  exact ⟨hindent, hreturn, habsorbs hreturn _, hmoved, hmoved ▸ (hblock hline).2.2⟩

end Multidialect.Text
