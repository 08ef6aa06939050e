import Multidialect.Proofs.Outcome
import Multidialect.Proofs.Text.Indent
import Multidialect.Template.Region

/-! # Reading regions and filling them

A text that is read as segments is these segments one after another: literal text without markers,
and regions, each from its start marker's line to its end marker's line (`Region.spelled_of_parse`).
Filling the regions replaces each of them and nothing else (`Region.fill_replaces_regions`). Without
overrides the text loses its marker lines and keeps all others.
-/

namespace Multidialect

open Text

/-- No line is a marker, and none is empty. -/
def Text.PlainLines (ls : List Text) : Prop := ∀ line ∈ ls, line ≠ [] ∧ isMarker line = false

/-- A segment with the physical lines that spell it. -/
inductive Segment.Spells : Segment → List Text → Prop
  | literal {ls : List Text} (plain : PlainLines ls) : Spells (.literal ls.flatten) ls
  | region {key : String} {n : Nat} {opening closing : Text} {body : List Text}
      (start : Marker.parse? opening = some (.start key)) (plain : PlainLines body)
      (stop : Marker.parse? closing = some (.stop key)) :
      Spells (.region ⟨key, n, opening, body.flatten, closing⟩) (opening :: body ++ [closing])

/-- What takes the place of a segment: of a region its body, or its override with the region's
terminator behind every line. -/
inductive Segment.Replaced (lookup : String → Option Text) : Segment → Text → Prop
  | literal (t : Text) : Replaced lookup (.literal t) t
  | default {r : Region} (h : lookup r.key = none) : Replaced lookup (.region r) r.body
  | removed {r : Region} {override : Text} (h : lookup r.key = some override)
      (blank : isBlankText override = true) : Replaced lookup (.region r) []
  | override {r : Region} {override : Text} {ls : List Text} (h : lookup r.key = some override)
      (solid : isBlankText override = false) (lines : unlines ls = reindent override r.indent)
      (ne_nil : ls ≠ []) (noFeed : ∀ line ∈ ls, '\n' ∉ line) :
      Replaced lookup (.region r) (ls.flatMap (· ++ r.newline.text))

theorem Segment.Spells.source {s : Segment} {ls : List Text} (h : s.Spells ls) :
    s.source = ls.flatten := by
  cases h <;> simp [Segment.source]

theorem Text.PlainLines.filter {ls : List Text} (h : PlainLines ls) :
    ls.filter (!isMarker ·) = ls :=
  List.filter_eq_self.2 fun line hm => by simp [(h line hm).2]

theorem Segment.Spells.unmarked {s : Segment} {ls : List Text} (h : s.Spells ls) :
    (ls.filter (!isMarker ·)).flatten = Region.fill (fun _ => none) [s] := by
  cases h with
  | literal plain => simp [plain.filter, Region.fill]
  | @region key n opening closing body start plain stop =>
    have hopening : isMarker opening = true := by simp [isMarker, start]
    have hclosing : isMarker closing = true := by simp [isMarker, stop]
    simp [plain.filter, hopening, hclosing, Region.fill, Region.filled]

namespace Region

/-! ## Reading -/

/-- The lines that have been read and are in no segment yet: literal text, or an open region. -/
inductive Pending : Text → Option Opened → List Text → Prop
  | outside {ls : List Text} (plain : PlainLines ls) : Pending ls.flatten none ls
  | inside {key : String} {n : Nat} {opening : Text} {body : List Text}
      (start : Marker.parse? opening = some (.start key)) (plain : PlainLines body) :
      Pending [] (some ⟨key, n, opening, body.flatten⟩) (opening :: body)

theorem plainLines_nil : PlainLines [] := by simp [PlainLines]

theorem pending_start : Pending [] none [] := .outside plainLines_nil

/-- Segments with the lines of each of them. -/
def Spelled (segments : List Segment) (ls : List Text) : Prop :=
  ∃ blocks, List.Forall₂ Segment.Spells segments blocks ∧ blocks.flatten = ls

theorem Spelled.nil : Spelled [] [] := ⟨[], .nil, rfl⟩

theorem Spelled.cons {s : Segment} {segments : List Segment} {ls rest : List Text}
    (hs : s.Spells ls) (h : Spelled segments rest) : Spelled (s :: segments) (ls ++ rest) := by
  obtain ⟨blocks, hall, rfl⟩ := h
  exact ⟨ls :: blocks, .cons hs hall, rfl⟩

theorem Spelled.consLiteral {segments : List Segment} {ls rest : List Text} (hls : PlainLines ls)
    (h : Spelled segments rest) :
    Spelled (Segment.consLiteral ls.flatten segments) (ls ++ rest) := by
  unfold Segment.consLiteral
  split
  · rename_i hnil
    -- no line is empty, so there is none
    have hnone : ls = [] := by
      refine List.eq_nil_iff_forall_not_mem.2 fun line hm => (hls line hm).1 ?_
      exact List.flatten_eq_nil_iff.1 hnil line hm
    rw [hnone]
    exact h
  · exact h.cons (.literal hls)

theorem plainLines_concat {ls : List Text} {line : Text} (h : PlainLines ls) (hne : line ≠ [])
    (hline : Marker.parse? line = none) : PlainLines (ls ++ [line]) := by
  intro l hl
  rcases List.mem_append.1 hl with hl | hl
  · exact h l hl
  · obtain rfl := List.mem_singleton.1 hl
    exact ⟨hne, by simp [isMarker, hline]⟩

theorem spelled_of_parseFrom {n : Nat} {seen : List (String × Nat)} {literal : Text}
    {opened : Option Opened} {ls pending : List Text} {segments : List Segment}
    (hls : ∀ line ∈ ls, line ≠ []) (hpending : Pending literal opened pending)
    (h : parseFrom n seen literal opened ls = .ok segments) : Spelled segments (pending ++ ls) := by
  fun_induction parseFrom n seen literal opened ls generalizing segments pending with
  | case1 => cases h
  | case2 n seen literal =>
    obtain rfl := Except.ok.inj h
    cases hpending with
    | outside plain => exact Spelled.nil.consLiteral plain
  | case3 n seen literal line rest hmarker ih =>
    obtain ⟨hline, hrest⟩ := List.forall_mem_cons.1 hls
    cases hpending with
    | outside plain =>
      have hnext := Pending.outside (plainLines_concat plain hline hmarker)
      rw [List.flatten_concat] at hnext
      simpa using ih hrest hnext h
  | case4 n seen literal line rest o hmarker ih =>
    obtain ⟨hline, hrest⟩ := List.forall_mem_cons.1 hls
    cases hpending with
    | @inside key m opening body start plain =>
      have hnext := Pending.inside (n := m) start (plainLines_concat plain hline hmarker)
      rw [List.flatten_concat] at hnext
      simpa using ih hrest hnext h
  | case5 => cases h
  | case6 => cases h
  | case7 => cases h
  | case8 n seen literal line rest key hmarker hnew ih =>
    obtain ⟨tail, htail, h⟩ := bind_eq_ok.1 h
    obtain rfl := pure_eq_ok.1 h
    cases hpending with
    | outside plain =>
      have hinside : Pending [] (some ⟨key, n, line, []⟩) [line] :=
        .inside hmarker plainLines_nil
      have hnext : Spelled tail ([line] ++ rest) :=
        ih (List.forall_mem_cons.1 hls).2 hinside htail
      exact hnext.consLiteral plain
  | case9 => cases h
  | case10 n seen literal line rest o hmarker ih =>
    obtain ⟨tail, htail, h⟩ := bind_eq_ok.1 h
    obtain rfl := pure_eq_ok.1 h
    cases hpending with
    | @inside key m opening body start plain =>
      have hnext : Spelled tail rest :=
        ih (List.forall_mem_cons.1 hls).2 pending_start htail
      simpa using hnext.cons (.region (n := m) start plain hmarker)
  | case11 => cases h

/-- **The lines of a text** are those of its segments, in order. -/
theorem spelled_of_parse {t : Text} {segments : List Segment} (h : parse t = .ok segments) :
    Spelled segments (physicalLines t) :=
  spelled_of_parseFrom (fun _ => mem_physicalLines_ne_nil) pending_start h

theorem Spelled.source {segments : List Segment} {ls : List Text} (h : Spelled segments ls) :
    segments.flatMap Segment.source = ls.flatten := by
  obtain ⟨blocks, hall, rfl⟩ := h
  induction hall with
  | nil => rfl
  | cons hs _ ih => simp [hs.source, ih]

theorem Spelled.unmarked {segments : List Segment} {ls : List Text} (h : Spelled segments ls) :
    fill (fun _ => none) segments = (ls.filter (!isMarker ·)).flatten := by
  obtain ⟨blocks, hall, rfl⟩ := h
  induction hall with
  | nil => rfl
  | @cons s block segments blocks hs _ ih =>
    have hsplit : fill (fun _ => none) (s :: segments) =
        fill (fun _ => none) [s] ++ fill (fun _ => none) segments := by simp [fill]
    rw [hsplit, ih, ← hs.unmarked, List.flatten_cons, List.filter_append, List.flatten_append]

/-! ## Filling -/

theorem replaced_filled (lookup : String → Option Text) (r : Region) :
    Segment.Replaced lookup (.region r) (filled lookup r) := by
  unfold filled
  split
  · rename_i hnone
    exact .default hnone
  · rename_i override hsome
    dsimp only
    split
    · rename_i hnil
      exact .removed hsome (reindent_eq_nil_iff.1 hnil)
    · rename_i hne
      obtain ⟨ls, hls, hfeed⟩ := exists_lines_reindent override (notMem_indentation r.opening)
      have hls' : unlines ls = reindent override r.indent := hls
      have hsome' : ls ≠ [] := by
        rintro rfl
        exact hne hls'.symm
      have hsolid : isBlankText override = false := by
        rw [← Bool.not_eq_true]
        exact fun hb => hne (reindent_eq_nil_iff.2 hb)
      rw [← hls', flatMap_exchange_unlines hsome' hfeed]
      exact .override hsome hsolid hls' hsome' hfeed

theorem exists_replaced_fill (lookup : String → Option Text) (segments : List Segment) :
    ∃ parts, List.Forall₂ (Segment.Replaced lookup) segments parts ∧
      fill lookup segments = parts.flatten := by
  induction segments with
  | nil => exact ⟨[], .nil, rfl⟩
  | cons s segments ih =>
    obtain ⟨parts, hall, hfill⟩ := ih
    cases s with
    | literal t => exact ⟨t :: parts, .cons (.literal t) hall, by rw [List.flatten_cons, ← hfill]; rfl⟩
    | region r =>
      refine ⟨filled lookup r :: parts, .cons (replaced_filled lookup r) hall, ?_⟩
      rw [List.flatten_cons, ← hfill]
      rfl

/-- **Filling replaces regions and nothing else.** The text is made of its literal parts and, for
each region, of the line of its start marker, its body and the line of its end marker; in the filled
text each region is replaced as `Segment.Replaced` has it. With no overrides at all the text loses
its marker lines. -/
theorem fill_replaces_regions {t : Text} {segments : List Segment} (h : parse t = .ok segments)
    (lookup : String → Option Text) :
    (∃ blocks, List.Forall₂ Segment.Spells segments blocks ∧ blocks.flatten = physicalLines t) ∧
      t = segments.flatMap Segment.source ∧
      (∃ parts, List.Forall₂ (Segment.Replaced lookup) segments parts ∧
        fill lookup segments = parts.flatten) ∧
      fill (fun _ => none) segments = ((physicalLines t).filter (!isMarker ·)).flatten := by
  have hspelled := spelled_of_parse h
  refine ⟨hspelled, ?_, exists_replaced_fill lookup segments, hspelled.unmarked⟩
  rw [hspelled.source, flatten_physicalLines]

/-- A region whose end marker is the last line, and whose lines end with both characters. -/
theorem fill_replaces_regions_crlf :
    let t : Text := "a\r\n  // @start then\r\nb\r\n  // @end then".toList
    let segments : List Segment :=
      [.literal "a\r\n".toList,
        .region ⟨"then", 2, "  // @start then\r\n".toList, "b\r\n".toList, "  // @end then".toList⟩]
    let lookup : String → Option Text := fun _ => some "\nc (\n  d\n)\n".toList
    parse t = .ok segments ∧
      fill lookup segments = "a\r\n  c (\r\n    d\r\n  )\r\n".toList ∧
      t = segments.flatMap Segment.source := by
  intro t segments lookup
  have h : parse t = .ok segments := ok_of_toOption (by decide +kernel)
  exact ⟨h, by decide +kernel, (fill_replaces_regions h lookup).2.1⟩

end Region

end Multidialect
