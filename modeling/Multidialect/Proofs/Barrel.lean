import Multidialect.Generation.Barrel
import Multidialect.Proofs.Text.Lines

/-! # Reading barrels back

A barrel is written as lines, each with its line feed, and read back line by line. What is read is
what was written if no line is blank, holds a line feed or ends in a carriage return
(`ofText_render`). The lines of a text are like this where carriage returns only stand before line
feeds (`wellFormed_ofText`), and so are those that export modules without a line feed in their name
(`Barrel.WellFormed.appendAll`). A barrel to which modules are added keeps its lines, and the missing
ones come behind them, each once (`lines_appendAll`); exporting modules again adds nothing
(`appendAll_appendAll`).
-/

namespace Multidialect

namespace Text

/-- Whether each carriage return is followed by a line feed. -/
def returnsEndLines : Text → Bool
  | [] => true
  | c :: cs => (c != '\r' || cs.head? == some '\n') && returnsEndLines cs

theorem returnsEndLines_append {a b : Text} (h : returnsEndLines (a ++ '\r' :: b) = true) :
    b.head? = some '\n' := by
  induction a with
  | nil =>
    simp only [List.nil_append, returnsEndLines, Bool.and_eq_true] at h
    simpa using h.1
  | cons c a ih =>
    simp only [List.cons_append, returnsEndLines, Bool.and_eq_true] at h
    exact ih h.2

/-- A carriage return and the line feed behind it are in one line. -/
theorem returnsEndLines_of_mem {t line : Text} (ht : returnsEndLines t = true)
    (h : line ∈ physicalLines t) : returnsEndLines line = true := by
  induction t generalizing line with
  | nil => simp [physicalLines] at h
  | cons c cs ih =>
    simp only [returnsEndLines, Bool.and_eq_true] at ht
    simp only [physicalLines] at h
    split at h
    · rename_i hc
      rcases List.mem_cons.1 h with rfl | h
      · simp [returnsEndLines, hc]
      · exact ih ht.2 h
    · split at h
      · rename_i hs
        have hcs : cs = [] := by rw [← flatten_physicalLines cs, hs]; rfl
        obtain rfl := List.mem_singleton.1 h
        simpa [hcs, returnsEndLines] using ht.1
      · rename_i first rest hs
        have hfirst : first ∈ physicalLines cs := hs ▸ List.mem_cons_self
        rcases List.mem_cons.1 h with rfl | h
        · have hhead : first.head? = cs.head? := by
            rw [← flatten_physicalLines cs, hs]
            cases hf : first with
            | nil => exact absurd hf (mem_physicalLines_ne_nil hfirst)
            | cons a as => rfl
          simp only [returnsEndLines, hhead, ht.1, ih ht.2 hfirst, Bool.and_self]
        · exact ih ht.2 (hs ▸ List.mem_cons_of_mem _ h)

/-- What is read as a line where carriage returns only stand before line feeds. -/
theorem mem_lines {t line : Text} (ht : returnsEndLines t = true) (h : line ∈ lines t) :
    '\n' ∉ line ∧ line.getLast? ≠ some '\r' := by
  obtain ⟨physical, hp, rfl⟩ := List.mem_map.1 h
  have hreturns := returnsEndLines_of_mem ht hp
  obtain ⟨body, hbody, rfl | rfl⟩ := mem_physicalLines hp
  · rw [content_of_notMem hbody]
    refine ⟨hbody, fun hlast => ?_⟩
    obtain ⟨front, rfl⟩ := List.getLast?_eq_some_iff.1 hlast
    simpa using returnsEndLines_append (b := []) hreturns
  · by_cases hlast : body.getLast? = some '\r'
    · obtain ⟨front, rfl⟩ := List.getLast?_eq_some_iff.1 hlast
      rw [List.append_assoc, List.singleton_append] at hreturns ⊢
      rw [content_append_return]
      refine ⟨fun hm => hbody (List.mem_append_left _ hm), fun hlast => ?_⟩
      -- two carriage returns before one line feed
      obtain ⟨before, rfl⟩ := List.getLast?_eq_some_iff.1 hlast
      rw [List.append_assoc, List.singleton_append] at hreturns
      simpa using returnsEndLines_append hreturns
    · rw [content_append_feed hlast]
      exact ⟨hbody, hlast⟩

theorem lines_flatMap {ls : List Text}
    (h : ∀ line ∈ ls, '\n' ∉ line ∧ line.getLast? ≠ some '\r') :
    lines (ls.flatMap (· ++ ['\n'])) = ls := by
  induction ls with
  | nil => rfl
  | cons line ls ih =>
    obtain ⟨hfeed, hlast⟩ := h line (.head _)
    have ih := ih fun l hl => h l (.tail _ hl)
    unfold lines at ih ⊢
    rw [List.flatMap_cons, List.append_assoc, List.singleton_append, physicalLines_append hfeed,
      List.map_cons, content_append_feed hlast, ih]

theorem unlines_append_feed {ls : List Text} (h : ls ≠ []) :
    unlines ls ++ ['\n'] = ls.flatMap (· ++ ['\n']) := by
  induction ls with
  | nil => exact absurd rfl h
  | cons line ls ih =>
    cases ls with
    | nil => simp [unlines_singleton]
    | cons line' ls =>
      rw [List.flatMap_cons, ← ih (by simp), unlines_cons_cons]
      simp

end Text

namespace Barrel

open Text (isBlankText)

variable {b : Barrel} {stem : Text} {stems : List Text}

/-! ## Barrels that are read back -/

/-- A line that is read as it was written. -/
structure IsLine (line : Text) : Prop where
  not_blank : isBlankText line = false
  no_feed : '\n' ∉ line
  no_return : line.getLast? ≠ some '\r'

/-- A barrel whose lines are read as they were written. -/
def WellFormed (b : Barrel) : Prop := ∀ line ∈ b.lines, IsLine line

theorem render_eq (h : ∀ line ∈ b.lines, isBlankText line = false) :
    b.render = b.lines.flatMap (· ++ ['\n']) := by
  unfold render
  cases hl : b.lines with
  | nil => rfl
  | cons line ls =>
    rw [← Text.unlines_append_feed (by simp)]
    have hline : line ≠ [] := by
      rintro rfl
      have := h [] (hl ▸ .head _)
      simp [isBlankText] at this
    have hne : Text.unlines (line :: ls) ≠ [] := by
      cases ls <;> simp [Text.unlines, Text.join, List.intercalate, hline]
    simp [hne]

/-- **A barrel is read back.** -/
theorem ofText_render (h : b.WellFormed) : ofText b.render = b := by
  rw [render_eq fun line hm => (h line hm).not_blank, ofText,
    Text.lines_flatMap fun line hm => ⟨(h line hm).no_feed, (h line hm).no_return⟩]
  congr 1
  exact List.filter_eq_self.2 fun line hm => by simp [(h line hm).not_blank]

/-- The barrel in a text in which carriage returns only stand before line feeds. -/
theorem wellFormed_ofText {t : Text} (h : Text.returnsEndLines t = true) :
    (ofText t).WellFormed := by
  intro line hm
  obtain ⟨hm, hblank⟩ := List.mem_filter.1 hm
  obtain ⟨hfeed, hreturn⟩ := Text.mem_lines h hm
  exact ⟨by simpa using hblank, hfeed, hreturn⟩

theorem wellFormed_empty : empty.WellFormed := fun _ hm => absurd hm List.not_mem_nil

theorem not_blank_exportLine (stem : Text) : isBlankText (exportLine stem) = false := by
  have hfront : isBlankText "export * from './".toList = false := by decide
  unfold exportLine
  generalize "export * from './".toList = front at hfront
  unfold isBlankText at hfront ⊢
  rw [List.all_append, List.all_append, hfront]
  rfl

theorem isLine_exportLine (h : '\n' ∉ stem) : IsLine (exportLine stem) := by
  refine ⟨not_blank_exportLine stem, ?_, ?_⟩
  · have hfeed : '\n' ∉ "export * from './".toList := by decide
    unfold exportLine
    generalize "export * from './".toList = front at hfeed
    simp [hfeed, h]
  · unfold exportLine
    generalize "export * from './".toList = front
    simp

theorem WellFormed.append (hb : b.WellFormed) (h : '\n' ∉ stem) : (b.append stem).WellFormed := by
  unfold Barrel.append
  split
  · exact hb
  · intro line hm
    rcases List.mem_append.1 hm with hm | hm
    · exact hb line hm
    · exact List.mem_singleton.1 hm ▸ isLine_exportLine h

theorem WellFormed.appendAll (hb : b.WellFormed) (h : ∀ stem ∈ stems, '\n' ∉ stem) :
    (b.appendAll stems).WellFormed := by
  induction stems generalizing b with
  | nil => exact hb
  | cons stem stems ih =>
    exact ih (hb.append (h stem (.head _))) fun s hs => h s (.tail _ hs)

/-! ## What a barrel comes to hold -/

/-- The lines that a barrel lacks to export modules, each once, where it comes first. -/
def missing (b : Barrel) (stems : List Text) : List Text :=
  ((stems.map exportLine).filter (!b.lines.contains ·)).eraseDups

/-- **Lines are only added**, behind those that are there. -/
theorem lines_appendAll (b : Barrel) (stems : List Text) :
    (b.appendAll stems).lines = b.lines ++ b.missing stems := by
  induction stems generalizing b with
  | nil => exact (List.append_nil _).symm
  | cons stem stems ih =>
    have hcons : b.appendAll (stem :: stems) = (b.append stem).appendAll stems := rfl
    rw [hcons, ih]
    by_cases hstem : exportLine stem ∈ b.lines
    · have hsame : b.append stem = b := if_pos (List.contains_iff_mem.2 hstem)
      rw [hsame, missing, missing, List.map_cons, List.filter_cons_of_neg (by simpa using hstem)]
    · have hmore : b.append stem = ⟨b.lines ++ [exportLine stem]⟩ :=
        if_neg (mt List.contains_iff_mem.1 hstem)
      rw [hmore, missing, missing, List.map_cons, List.filter_cons_of_pos (by simpa using hstem),
        List.eraseDups_cons, List.filter_filter, List.append_assoc, List.singleton_append]
      congr 3
      refine List.filter_congr fun line _ => ?_
      rw [Bool.eq_iff_iff]
      simp [and_comm]

theorem mem_missing {line : Text} :
    line ∈ b.missing stems ↔ (∃ stem ∈ stems, exportLine stem = line) ∧ line ∉ b.lines := by
  simp [missing]

theorem nodup_missing (b : Barrel) (stems : List Text) : (b.missing stems).Nodup := by
  unfold missing
  generalize (stems.map exportLine).filter (!b.lines.contains ·) = ls
  induction hlen : ls.length using Nat.strongRecOn generalizing ls with
  | ind len ih =>
    cases ls with
    | nil => exact List.nodup_nil
    | cons line ls =>
      rw [List.eraseDups_cons, List.nodup_cons]
      refine ⟨by simp, ih _ ?_ _ rfl⟩
      rw [← hlen, List.length_cons]
      exact Nat.lt_succ_of_le (List.length_filter_le _ _)

/-- No line of a barrel that grew is blank, if none was. -/
theorem not_blank_appendAll (h : ∀ line ∈ b.lines, isBlankText line = false) :
    ∀ line ∈ (b.appendAll stems).lines, isBlankText line = false := by
  intro line hm
  rw [lines_appendAll] at hm
  rcases List.mem_append.1 hm with hm | hm
  · exact h line hm
  · obtain ⟨⟨stem, -, rfl⟩, -⟩ := mem_missing.1 hm
    exact not_blank_exportLine stem

/-! ## Exporting again -/

theorem exports_append (b : Barrel) (stem : Text) : (b.append stem).exports stem = true := by
  unfold Barrel.append
  split
  · assumption
  · simp [exports]

theorem exports_append_of_exports (h : b.exports stem = true) (s : Text) :
    (b.append s).exports stem = true := by
  unfold Barrel.append
  split
  · exact h
  · simp only [exports, List.contains_iff_mem] at h ⊢
    exact List.mem_append_left _ h

theorem exports_appendAll (h : b.exports stem = true ∨ stem ∈ stems) :
    (b.appendAll stems).exports stem = true := by
  induction stems generalizing b with
  | nil => exact h.resolve_right List.not_mem_nil
  | cons s stems ih =>
    refine ih ?_
    rcases h with h | h
    · exact .inl (exports_append_of_exports h s)
    · rcases List.mem_cons.1 h with rfl | h
      · exact .inl (exports_append b stem)
      · exact .inr h

theorem appendAll_of_exports (h : ∀ stem ∈ stems, b.exports stem = true) : b.appendAll stems = b := by
  induction stems with
  | nil => rfl
  | cons stem stems ih =>
    have hstem : b.append stem = b := by rw [Barrel.append, if_pos (h stem (.head _))]
    rw [appendAll, List.foldl_cons, hstem]
    exact ih fun s hs => h s (.tail _ hs)

/-- **Exporting the same modules again** adds nothing. -/
theorem appendAll_appendAll (b : Barrel) (stems : List Text) :
    (b.appendAll stems).appendAll stems = b.appendAll stems :=
  appendAll_of_exports fun _ hs => exports_appendAll (.inr hs)

end Barrel

end Multidialect
