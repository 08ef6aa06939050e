import Multidialect.Generation.Render
import Multidialect.Proofs.Manifest.Accepted
import Multidialect.Proofs.Pipeline.Order
import Multidialect.Proofs.Pipeline.Run
import Multidialect.Proofs.Template.Markers
import Multidialect.Proofs.Template.Traced

/-! # The lines of faults

Directives are what is looked at first in a template, so a fault of theirs has the line of the
source. Markers are looked for in the text that directives, comparisons, type parameters and
renaming have left, and lines are counted there. Where that text was written is known
(`RenderContext.trace`): the number that a fault has is that of the source exactly if in front of
the line as many line feeds were put in as are gone (`Generator.fault_lines_iff`).
-/

namespace Multidialect

open Text Traced

/-! ## Lines of faults -/

namespace Fault

/-- The line of a fault of a directive. -/
def directiveLine? : Fault → Option Nat
  | .danglingRemove _ n | .emptyTag n | .unknownTag _ n => some n
  | _ => none

/-- The lines of a fault of markers. -/
def markerLines : Fault → List Nat
  | .unmatchedStart _ n | .unmatchedEnd _ n | .mismatchedEnd _ _ n | .nestedRegion _ _ n
  | .malformedMarker n _ => [n]
  | .duplicateRegion _ n first => [n, first]
  | _ => []

end Fault

namespace Directive

theorem IsFault.directiveLine? {n : Nat} {last : Prop} {x : Directive} {f : Fault}
    (h : IsFault n last x f) : f.directiveLine? = some n := by
  cases h <;> rfl

theorem IsFault.markerLines {n : Nat} {last : Prop} {x : Directive} {f : Fault}
    (h : IsFault n last x f) : f.markerLines = [] := by
  cases h <;> rfl

end Directive

namespace Region

/-- A marker stands on the line that it has the number of. -/
theorem exists_line_of_mem_markersFrom {x : MarkerLine} {n : Nat} {ls : List Text}
    (h : x ∈ markersFrom n ls) :
    ∃ front back, ls = front ++ x.line :: back ∧ n + front.length = x.number ∧
      isMarker x.line = true := by
  induction ls generalizing n with
  | nil => cases h
  | cons line ls ih =>
    have hbelow : x ∈ markersFrom (n + 1) ls → ∃ front back, line :: ls = front ++ x.line :: back ∧
        n + front.length = x.number ∧ isMarker x.line = true := by
      intro hx
      obtain ⟨front, back, rfl, hnumber, hmarker⟩ := ih hx
      refine ⟨line :: front, back, rfl, ?_, hmarker⟩
      rw [List.length_cons]
      omega
    cases hm : Marker.parse? line with
    | none =>
      rw [markersFrom_cons_none hm] at h
      exact hbelow h
    | some m =>
      rw [markersFrom_cons_some hm] at h
      rcases List.mem_cons.1 h with rfl | h
      · exact ⟨[], ls, rfl, rfl, by rw [isMarker, hm]; rfl⟩
      · exact hbelow h

theorem Breaks.directiveLine? {front : List MarkerLine} {x : MarkerLine} {f : Fault}
    (h : Breaks front x f) : f.directiveLine? = none := by
  cases h <;> rfl

/-- What is wrong with a marker has its number and that of no marker but one in front of it. -/
theorem Breaks.exists_mem {front : List MarkerLine} {x : MarkerLine} {f : Fault}
    (h : Breaks front x f) {n : Nat} (hn : n ∈ f.markerLines) :
    ∃ y ∈ front ++ [x], y.number = n := by
  have hlast : ∀ m, m ∈ [x.number] → ∃ y ∈ front ++ [x], y.number = m := by
    intro m hm
    exact ⟨x, by simp, (List.mem_singleton.1 hm).symm⟩
  cases h with
  | malformed | nested | unmatchedEnd | mismatchedEnd => exact hlast n hn
  | duplicate _ _ defined =>
    rcases List.mem_cons.1 hn with rfl | hn
    · exact hlast _ (.head _)
    · obtain ⟨y, hy, hstart⟩ := List.mem_filterMap.1 defined
      obtain ⟨-, hnumber⟩ := start?_eq_some.1 hstart
      exact ⟨y, List.mem_append_left _ hy, hnumber.trans (List.mem_singleton.1 hn).symm⟩

theorem Refused.directiveLine? {xs : List MarkerLine} {f : Fault} (h : Refused xs f) :
    f.directiveLine? = none := by
  cases h with
  | breaks split before after kind => exact kind.directiveLine?
  | unclosed continues inside => rfl

theorem Refused.exists_mem {xs : List MarkerLine} {f : Fault} (h : Refused xs f) {n : Nat}
    (hn : n ∈ f.markerLines) : ∃ y ∈ xs, y.number = n := by
  cases h with
  | @breaks front back x _ split before after kind =>
    obtain ⟨y, hy, hnumber⟩ := kind.exists_mem hn
    have hsplit : xs = (front ++ [x]) ++ back := by rw [split]; simp
    exact ⟨y, hsplit ▸ List.mem_append_left back hy, hnumber⟩
  | unclosed continues inside =>
    obtain ⟨y, hy, hstart⟩ := Option.bind_eq_some_iff.1 inside
    obtain ⟨-, hnumber⟩ := start?_eq_some.1 hstart
    exact ⟨y, List.mem_of_getLast? hy, hnumber.trans (List.mem_singleton.1 hn).symm⟩

theorem refused_of_parse {t : Text} {f : Fault} (h : parse t = .error f) :
    Refused (markers t) f := by
  have hverdict := verdict_parse t
  rwa [h] at hverdict

/-- Each number that a fault of markers has is that of a marker line of the text. -/
theorem exists_marker_of_parse {t : Text} {f : Fault} (h : parse t = .error f) {n : Nat}
    (hn : n ∈ f.markerLines) :
    ∃ front line back, physicalLines t = front ++ line :: back ∧ front.length + 1 = n ∧
      isMarker line = true := by
  obtain ⟨y, hy, rfl⟩ := (refused_of_parse h).exists_mem hn
  obtain ⟨front, back, hlines, hnumber, hmarker⟩ := exists_line_of_mem_markersFrom hy
  exact ⟨front, y.line, back, hlines, by omega, hmarker⟩

end Region

/-! ## Following a rendering -/

namespace RenderContext

variable (c : RenderContext)

/-- The text with the dialect's type parameters put in. -/
def traceParams (x : Traced) : Traced :=
  match c.profile.typeParams with
  | none => x
  | some p => if p.slots = 0 then x else Generics.trace c.manifest.types p x

/-- The text in which the regions of a template without replacers are read. -/
def trace : Traced :=
  Vocabulary.traceOutsideMarkers c.manifest.types.sessions c.reference c.profile <|
    c.traceParams <|
      Directive.traceAll c.dialect c.manifest.generator.placeholder.toList c.template.source.toList

theorem from_traceParams (x : Traced) : From x (c.traceParams x) := by
  unfold traceParams
  cases c.profile.typeParams with
  | none => exact .refl x
  | some p =>
    dsimp only
    split
    · exact .refl x
    · exact (Generics.tracks_inject c.manifest.types p).keeps x

/-- Type parameters are put in, whatever the text. -/
theorem run_typeParams {d d' : Draft} {x : Traced} (hx : chars x = d.text)
    {r : Except RenderError Unit} (h : Pass.typeParams.run c d = (d', r)) :
    r = .ok () ∧ chars (c.traceParams x) = d'.text := by
  unfold Pass.typeParams at h
  unfold traceParams
  dsimp only at h
  cases hp : c.profile.typeParams with
  | none =>
    rw [hp] at h
    obtain ⟨rfl, rfl⟩ := Prod.mk.inj h
    exact ⟨rfl, hx⟩
  | some p =>
    rw [hp] at h
    dsimp only at h ⊢
    split at h
    · rename_i hslots
      obtain ⟨rfl, rfl⟩ := Prod.mk.inj h
      rw [if_pos hslots]
      exact ⟨rfl, hx⟩
    · rename_i hslots
      obtain ⟨rfl, rfl⟩ := Prod.mk.inj h
      refine ⟨rfl, ?_⟩
      rw [if_neg hslots, (Generics.tracks_inject c.manifest.types p).follows, hx]
      split <;> rfl

/-- What is left of the source where regions are read has kept its order. -/
theorem from_trace : (kept c.trace).Sublist (numbered (physicalLines c.template.source.toList)) := by
  have hwords := (Vocabulary.tracks_adaptOutsideMarkers c.manifest.types.sessions c.reference
    c.profile).keeps
  have hall := ((Directive.from_traceAll c.dialect c.manifest.generator.placeholder.toList
    c.template.source.toList).trans (c.from_traceParams _)).trans (hwords _)
  exact List.Sublist.trans hall List.filter_sublist

end RenderContext

namespace Pipeline

variable {registry : ReplacerRegistry} {c : RenderContext} {σ : Type} {kept : σ} {s : Attended σ}
  {f : Fault}

/-- Without replacers a rendering fails at a directive of the source, at a marker in the text that is
left of it, or at what is found in the finished module. -/
theorem fault_of_run (hreplacers : registry.replacers c.template.name = [])
    (h : (standard registry).run [] c ⟨.ofTemplate c.template, kept⟩ = (s, .error (.fault f))) :
    Directive.resolve c.dialect c.template.source.toList = .error f ∨
      Region.parse (chars c.trace) = .error f ∨
      ∃ marker n, f = .residue c.dialect.name marker n := by
  rw [run_nil, passes_standard] at h
  have hpasses : Action.inOrder ((Pass.standard registry).map (·.run c)) (.ofTemplate c.template) =
      (s.draft, .error (.fault f)) := by
    obtain ⟨hs, herror⟩ := Prod.mk.inj h
    rw [← hs, ← herror]
  simp only [Pass.standard, List.map_cons, List.map_nil, Action.inOrder] at hpasses
  have hreplace : (Pass.replace registry).run c (.ofTemplate c.template) =
      (.ofTemplate c.template, .ok ()) := by
    rw [Pass.replace]
    dsimp only
    rw [hreplacers]
    rfl
  rcases Action.andThen_eq_error.1 hpasses with hfail | ⟨_, hrun, hpasses⟩
  · rw [hreplace] at hfail
    cases (Prod.mk.inj hfail).2
  rw [hreplace] at hrun
  obtain ⟨rfl, -⟩ := Prod.mk.inj hrun
  rcases Action.andThen_eq_error.1 hpasses with hfail | ⟨resolved, hrun, hpasses⟩
  · exact .inl (map_eq_error.1 (Pass.ofText_eq_error hfail))
  have hresolved := Directive.chars_traceAll (Pass.ofText_eq_ok hrun)
  rcases Action.andThen_eq_error.1 hpasses with hfail | ⟨extended, hrun, hpasses⟩
  · cases (c.run_typeParams hresolved hfail).1
  have hextended := (c.run_typeParams hresolved hrun).2
  rcases Action.andThen_eq_error.1 hpasses with hfail | ⟨adapted, hrun, hpasses⟩
  · cases Pass.ofText_eq_error hfail
  have hadapted : chars c.trace = adapted.text := by
    rw [RenderContext.trace, (Vocabulary.tracks_adaptOutsideMarkers _ _ _).follows]
    exact (congrArg _ hextended).trans (Except.ok.inj (Pass.ofText_eq_ok hrun))
  rcases Action.andThen_eq_error.1 hpasses with hfail | ⟨_, -, hpasses⟩
  · rw [hadapted]
    exact .inr (.inl (map_eq_error.1 (Pass.ofText_eq_error hfail)))
  rcases Action.andThen_eq_error.1 hpasses with hfail | ⟨_, -, hnothing⟩
  · have hresidue := Pass.ofText_eq_error hfail
    split at hresidue
    · exact .inr (.inr ⟨_, _, (Except.error.inj hresidue).symm⟩)
    · cases hresidue
  · cases (Prod.mk.inj hnothing).2

end Pipeline

namespace Generator

variable {g : Generator} {t : Template} {d : Dialect} {f : Fault}

/-- The text in which the regions of a pair are read, if its template has no replacers. -/
def trace (g : Generator) (t : Template) (d : Dialect) : Traced :=
  RenderContext.trace ⟨t, g.manifest.profile d, g.manifest.referenceProfile, g.manifest⟩

theorem fault_of_renderPair (hreplacers : g.replacers.replacers t.name = [])
    (h : (g.renderPair [] t (g.manifest.profile d) g.manifest.referenceProfile ()).2 =
      .error (.fault f)) :
    Directive.resolve d t.source.toList = .error f ∨
      Region.parse (chars (g.trace t d)) = .error f ∨ ∃ marker n, f = .residue d.name marker n := by
  unfold renderPair at h
  split at h
  · cases h
  · dsimp only at h
    split at h
    · cases h
    · rename_i s e hrun
      rw [Except.error.inj h] at hrun
      have hfault := Pipeline.fault_of_run hreplacers hrun
      rwa [RenderContext.dialect, Manifest.dialect_profile] at hfault

/-- **The lines of faults.** The line of a fault of a directive is that of the source. A fault of
markers is found in the text that the rules before have left, where the numbers it has are those of
marker lines; if such a line was written on line `k` of the source, its number is `k` exactly if in
front of it as many line feeds were put in as are gone. -/
theorem fault_lines_iff (hreplacers : g.replacers.replacers t.name = [])
    (h : (g.renderPair [] t (g.manifest.profile d) g.manifest.referenceProfile ()).2 =
      .error (.fault f)) :
    (∀ n ∈ f.directiveLine?,
      ∃ i, n = i + 1 ∧ Directive.FaultAt d 1 (physicalLines t.source.toList) i f) ∧
    (kept (g.trace t d)).Sublist (numbered (physicalLines t.source.toList)) ∧
    ∀ n ∈ f.markerLines, Region.parse (chars (g.trace t d)) = .error f ∧
      ∃ front line back, (g.trace t d).lines = front ++ line :: back ∧ front.length + 1 = n ∧
        isMarker (chars line) = true ∧
        ∀ k, origin? line = some k → (n = k ↔ endsPut front.flatten = endsGone k front.flatten) := by
  have hfrom : (kept (g.trace t d)).Sublist (numbered (physicalLines t.source.toList)) :=
    RenderContext.from_trace _
  rcases fault_of_renderPair hreplacers h with hdirective | hmarkers | ⟨marker, n, rfl⟩
  · obtain ⟨i, ⟨x, hx, hkind⟩, -⟩ := Directive.resolve_eq_iff.1 hdirective
    rw [hkind.directiveLine?, hkind.markerLines]
    refine ⟨?_, hfrom, fun n hn => nomatch hn⟩
    rintro _ ⟨⟩
    exact ⟨i, Nat.add_comm 1 i, x, hx, hkind⟩
  · rw [(Region.refused_of_parse hmarkers).directiveLine?]
    refine ⟨fun n hn => (nomatch hn), hfrom, fun n hn => ⟨hmarkers, ?_⟩⟩
    obtain ⟨front, line, back, hlines, rfl, hmarker⟩ := Region.exists_marker_of_parse hmarkers hn
    rw [← map_chars_lines] at hlines
    obtain ⟨front, rest, hsplit, rfl, hrest⟩ := List.map_eq_append_iff.1 hlines
    obtain ⟨line, back, rfl, rfl, rfl⟩ := List.map_eq_cons_iff.1 hrest
    rw [List.length_map]
    exact ⟨front, line, back, hsplit, rfl, hmarker, fun k hk => number_eq_iff hfrom hsplit hk⟩
  · exact ⟨fun n hn => (nomatch hn), hfrom, fun n hn => nomatch hn⟩

/-- An insertion for another dialect leaves no line behind, so the lines below are one short. -/
theorem fault_lines_behind_insertion :
    let g : Generator := ⟨.standard, ⟨"."⟩⟩
    let t : Template := .ofSource "cursor.ts" "// mysql-insert: a\n// @end then\n"
    g.replacers.replacers t.name = [] ∧
      (g.renderPair [] t (g.manifest.profile .sqlite) g.manifest.referenceProfile ()).2 =
        .error (.fault (.unmatchedEnd "then" 1)) ∧
      ∃ line back, (g.trace t .sqlite).lines = line :: back ∧ origin? line = some 2 ∧
        ¬ endsPut [] = endsGone 2 [] := by
  intro g t
  have hreplacers : g.replacers.replacers t.name = [] := by decide +kernel
  have hfails : (g.renderPair [] t (g.manifest.profile .sqlite) g.manifest.referenceProfile ()).2 =
      .error (.fault (.unmatchedEnd "then" 1)) := by decide +kernel
  have horigin : (g.trace t .sqlite).lines.head?.bind origin? = some 2 := by decide +kernel
  obtain ⟨-, -, hmarkers⟩ := fault_lines_iff hreplacers hfails
  obtain ⟨-, front, line, back, hlines, hfront, -, hnumber⟩ := hmarkers 1 (by decide)
  obtain rfl : front = [] := List.eq_nil_of_length_eq_zero (by omega)
  rw [hlines] at horigin
  exact ⟨hreplacers, hfails, line, back, hlines, horigin,
    fun hsame => absurd ((hnumber 2 horigin).2 hsame) (by decide)⟩

/-- **The number can be that of another line**: the marker stands on line 2, and the line reported is
the one above, where there is none. -/
theorem marker_line_misreported :
    let g : Generator := ⟨.standard, ⟨"."⟩⟩
    let t : Template := .ofSource "cursor.ts" "// mysql-insert: a\n// @end then\n"
    g.replacers.replacers t.name = [] ∧ Dialect.sqlite ≠ g.manifest.reference ∧
      (g.renderPair [] t (g.manifest.profile .sqlite) g.manifest.referenceProfile ()).2 =
        .error (.fault (.unmatchedEnd "then" 1)) ∧
      (physicalLines t.source.toList).map Marker.parse? = [none, some (.stop "then")] := by
  decide +kernel

end Generator

end Multidialect
