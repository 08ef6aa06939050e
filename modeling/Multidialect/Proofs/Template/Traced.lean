import Multidialect.Proofs.Template.Interpretation
import Multidialect.Proofs.Template.LineEndings
import Multidialect.Proofs.Text.Traced

/-! # Where characters were written

Each rule that works on a text before its regions are read is followed on traced texts: line
directives (`Directive.trace`), the placeholder, comparisons, type parameters, and the words of a
dialect (`Vocabulary.traceOutsideMarkers`). What a rule exchanges or repeats is put in; all else keeps
the number of its line.
-/

namespace Multidialect

open Text Traced

/-! ## Around what a line says -/

namespace Text

theorem takeWhile_sublist_of_stop {p : Char → Bool} {c : Char} (hc : p c = false) (a b : Text) :
    ((a ++ c :: b).takeWhile p).Sublist a := by
  induction a with
  | nil => simp [hc]
  | cons d a ih =>
    rw [List.cons_append, List.takeWhile_cons]
    split
    · exact ih.cons_cons d
    · exact List.nil_sublist _

theorem indentation_sublist {c : Char} (hc : isBlank c = false) (lead more : Text) :
    (indentation (lead ++ c :: more)).Sublist lead := by
  have hspace : ' ' ≠ c := ne_of_isBlank (by decide) hc
  have htab : '\t' ≠ c := ne_of_isBlank (by decide) hc
  have hstop : (c == ' ' || c == '\t') = false := by simp [hspace.symm, htab.symm]
  exact takeWhile_sublist_of_stop hstop lead more

end Text

/-! ## Line directives -/

namespace Directive

/-- The text with its directives carried out. What a line gives stands on that line. -/
def trace (d : Dialect) (t : Text) : Traced :=
  (List.range (physicalLines t).length).flatMap fun i =>
    written (i + 1) (givenAt d (physicalLines t) i)

theorem chars_trace {d : Dialect} {t out : Text} (h : resolve d t = .ok out) :
    chars (trace d t) = out := by
  obtain ⟨-, rfl⟩ := resolve_eq_iff.1 h
  rw [trace, chars, List.map_flatMap]
  exact List.flatMap_congr fun i _ => chars_written _ _

theorem lineEnding_sublist {c : Char} (hc : isBlank c = false) (front blanks : Text) :
    (lineEnding (front ++ c :: blanks)).Sublist blanks := by
  have hreturn : '\r' ≠ c := ne_of_isBlank (by decide) hc
  have hfeed : '\n' ≠ c := ne_of_isBlank (by decide) hc
  have hstop : (c == '\r' || c == '\n') = false := by simp [hreturn.symm, hfeed.symm]
  have hend := takeWhile_sublist_of_stop (p := fun c => c == '\r' || c == '\n') hstop
    blanks.reverse front.reverse
  have hreverse : (front ++ c :: blanks).reverse = blanks.reverse ++ c :: front.reverse := by simp
  rw [lineEnding, hreverse]
  simpa using hend.reverse

/-- A line on which something is said holds what is put in for it, if that is part of what it says. -/
theorem insertedLine_sublist {line code : Text} (hne : trim line ≠ [])
    (hcode : code.Sublist (trim line)) : (insertedLine line code).Sublist line := by
  obtain ⟨lead, blanks, hline, -⟩ := exists_around_trim line
  have hindent : (indentation line).Sublist lead := by
    obtain ⟨c, more, hsaid⟩ := List.exists_cons_of_ne_nil hne
    rw [hsaid, List.cons_append] at hline
    rw [hline]
    exact indentation_sublist (isBlank_head_trim hsaid) lead _
  have hending : (lineEnding line).Sublist blanks := by
    have hsaid := (List.dropLast_append_getLast hne).symm
    rw [hsaid, List.append_assoc, List.singleton_append, ← List.append_assoc] at hline
    rw [hline]
    exact lineEnding_sublist (isBlank_last_trim hsaid) _ blanks
  have hall := (hindent.append hcode).append hending
  rwa [List.append_assoc lead, ← hline] at hall

theorem trim_ne_nil_of_parse? {line : Text} {x : Directive} (h : parse? line = some x) :
    trim line ≠ [] := by
  intro hnil
  rw [parse?, comment?, hnil] at h
  cases h

theorem given_sublist (d : Dialect) (line : Text) : (given d line).Sublist line := by
  rw [given]
  split
  · exact List.Sublist.refl _
  · rename_i tag code hparse
    split
    · obtain ⟨front, more, hline, rfl⟩ := exists_code_of_parse? hparse rfl
      have hsaid : (trim more).Sublist (trim line) := by
        rw [hline]
        exact (trim_sublist more).trans (List.sublist_append_right _ _)
      exact insertedLine_sublist (trim_ne_nil_of_parse? hparse) hsaid
    · exact List.nil_sublist _
  · exact List.nil_sublist _

/-- What is left of a source comes from it. -/
theorem from_trace (d : Dialect) (t : Text) : From (numbered (physicalLines t)) (trace d t) := by
  refine (List.Sublist.flatMap_right _ fun i _ => ?_).filter _
  rw [givenAt]
  split
  · exact List.nil_sublist _
  · cases (physicalLines t)[i]? with
    | none => exact List.Sublist.refl _
    | some line => exact (given_sublist d line).map _

end Directive

/-! ## The placeholder and comparisons -/

/-- The text with the placeholder replaced where it is an operand. -/
def Placeholder.trace (name : Text) (d : Dialect) (x : Traced) : Traced :=
  let e (around : Text × Text) (_ : Text) : Splice := ⟨around.1.length, quoted d, around.2.length⟩
  traceSites (rightOperand name) e (traceSites (leftOperand name) e x)

theorem Placeholder.tracks_substitute (name : Text) (d : Dialect) :
    Tracks (substitute name d) (trace name d) := by
  have hput : ∀ (around : Text × Text) (covered : Text), covered = around.1 ++ name ++ around.2 →
      (Splice.mk around.1.length (quoted d) around.2.length).text covered =
        around.1 ++ quoted d ++ around.2 := by
    rintro around _ rfl
    exact Splice.text_between ..
  have hleft := Tracks.sites (finds_leftOperand name) hput
  have hright := Tracks.sites (finds_rightOperand name) hput
  exact hright.comp hleft

/-- The text with each comparison of literals replaced by its value. -/
def Comparison.trace (x : Traced) : Traced :=
  traceSites site (fun value covered =>
    match value with
    | none => .behind covered []
    | some b => ⟨0, truthText b, 0⟩) x

theorem Comparison.tracks_fold : Tracks fold trace := by
  refine Tracks.sites_always site fun value covered => ?_
  cases value with
  | none =>
    rw [Splice.text_behind, List.append_nil]
    rfl
  | some b => simp [Splice.text]

/-- The source with everything carried out that depends on the dialect alone. -/
def Directive.traceAll (d : Dialect) (placeholder t : Text) : Traced :=
  Comparison.trace (Placeholder.trace placeholder d (trace d t))

theorem Directive.chars_traceAll {d : Dialect} {placeholder t out : Text}
    (h : resolveAll d placeholder t = .ok out) : chars (traceAll d placeholder t) = out := by
  obtain ⟨resolved, hresolved, rfl⟩ := map_eq_ok.1 h
  rw [traceAll, Comparison.tracks_fold.follows, (Placeholder.tracks_substitute placeholder d).follows,
    chars_trace hresolved]

theorem Directive.from_traceAll (d : Dialect) (placeholder t : Text) :
    From (numbered (physicalLines t)) (traceAll d placeholder t) :=
  ((from_trace d t).trans ((Placeholder.tracks_substitute placeholder d).keeps _)).trans
    (Comparison.tracks_fold.keeps _)

/-! ## Type parameters -/

namespace Generics

/-- The text with the parameters put into the builder's parameter lists. -/
def traceBuilder (name : Text) (p : TypeParams) : Traced → Traced :=
  traceSites (builderSite name) fun o covered =>
    .behind covered ((if o.declared then p.code else p.permissive) ++ separator o.blanks)

/-- The text with the parameters put into the parameter lists of a query type. -/
def traceQuery (name : Text) (p : TypeParams) : Traced → Traced :=
  traceSites (querySite name) fun blanks covered => .behind covered (p.arguments ++ separator blanks)

/-- The text with the parameters put in everywhere. -/
def trace (types : TypeNames) (p : TypeParams) (x : Traced) : Traced :=
  types.queries.foldl (fun x query => traceQuery query.toList p x)
    (traceBuilder types.builder.toList p x)

theorem tracks_injectBuilder (name : Text) (p : TypeParams) :
    Tracks (injectBuilder name p) (traceBuilder name p) := by
  have hbehind := Tracks.behind (builderSite name) fun o =>
    (if o.declared then p.code else p.permissive) ++ separator o.blanks
  simp only [← List.append_assoc] at hbehind
  exact hbehind

theorem tracks_injectQuery (name : Text) (p : TypeParams) :
    Tracks (injectQuery name p) (traceQuery name p) := by
  have hbehind := Tracks.behind (querySite name) fun blanks => p.arguments ++ separator blanks
  simp only [← List.append_assoc] at hbehind
  exact hbehind

theorem tracks_inject (types : TypeNames) (p : TypeParams) :
    Tracks (fun t => (inject types p t).1) (trace types p) := by
  have hqueries := Tracks.foldl types.queries fun query _ => tracks_injectQuery query.toList p
  have hall := hqueries.comp (tracks_injectBuilder types.builder.toList p)
  refine ⟨fun x => (hall.follows x).trans ?_, hall.keeps⟩
  exact (injectQueries_fst p types.queries _).symm

end Generics

/-! ## The vocabulary -/

/-- The text with type arguments at the annotations of a session type. -/
def Session.trace (session params : Text) : Traced → Traced :=
  traceSites (site session) fun hasArguments covered =>
    .behind covered (if hasArguments then [] else '<' :: params ++ ['>'])

theorem Session.tracks_addParams (session params : Text) :
    Tracks (addParams session params) (trace session params) := by
  refine Tracks.sites_always (site session) fun hasArguments covered => ?_
  rw [Splice.text_behind]
  cases hasArguments <;> simp

/-- The text with a word exchanged. -/
def Text.traceWord (word other : Text) : Traced → Traced :=
  traceSites (wordSite word) fun _ _ => ⟨0, other, 0⟩

theorem Text.tracks_exchangeWord (word other : Text) :
    Tracks (exchangeWord word other) (traceWord word other) :=
  Tracks.sites (finds_wordSite word) fun _ covered _ => by simp [Splice.text]

namespace Vocabulary

/-- The text with an identifier renamed. -/
def traceIdentifier (source target : Text) : Traced → Traced :=
  traceSites (identifierSite source) fun lead _ => ⟨lead.length, target, 0⟩

theorem tracks_renameIdentifier (source target : Text) :
    Tracks (renameIdentifier source target) (traceIdentifier source target) := by
  refine Tracks.sites (finds_identifierSite source) ?_
  rintro lead _ rfl
  simpa using Splice.text_between lead source target []

/-- The text with type arguments at the annotations of the session types. -/
def traceAnnotations (sessions : List String) (profile : Profile) (x : Traced) : Traced :=
  match profile.sessionParams with
  | none => x
  | some params => sessions.foldl (fun x session => Session.trace session.toList params x) x

theorem tracks_annotate (sessions : List String) (profile : Profile) :
    Tracks (annotate sessions profile) (traceAnnotations sessions profile) := by
  unfold annotate traceAnnotations
  cases profile.sessionParams with
  | none => exact Tracks.id
  | some params =>
    exact Tracks.foldl sessions fun session _ => Session.tracks_addParams session.toList params

/-- The text with the identifiers of a dictionary renamed, in order. -/
def traceRenames (renames : Dictionary String) (x : Traced) : Traced :=
  renames.foldl (fun x entry => traceIdentifier entry.1.toList entry.2.toList x) x

theorem tracks_rename (renames : Dictionary String) :
    Tracks (rename renames) (traceRenames renames) :=
  Tracks.foldl renames fun entry _ => tracks_renameIdentifier entry.1.toList entry.2.toList

/-- The text with the reference's prefix in module paths exchanged for the dialect's. -/
def traceModules (reference profile : Profile) (x : Traced) : Traced :=
  if reference.modulePrefix = profile.modulePrefix then x
  else traceWord (reference.modulePrefix.toList ++ ['-']) (profile.modulePrefix.toList ++ ['-']) x

theorem tracks_exchangeModules (reference profile : Profile) :
    Tracks (exchangeModules reference profile) (traceModules reference profile) := by
  unfold exchangeModules traceModules
  split
  · exact Tracks.id
  · exact tracks_exchangeWord _ _

/-- The text with the reference's prefix of type names exchanged for the dialect's. -/
def traceTypes (reference profile : Profile) (x : Traced) : Traced :=
  if reference.typePrefix = profile.typePrefix then x
  else traceWord reference.typePrefix.toList profile.typePrefix.toList x

theorem tracks_exchangeTypes (reference profile : Profile) :
    Tracks (exchangeTypes reference profile) (traceTypes reference profile) := by
  unfold exchangeTypes traceTypes
  split
  · exact Tracks.id
  · exact tracks_exchangeWord _ _

/-- The text in the words of a dialect. -/
def trace (sessions : List String) (reference profile : Profile) (x : Traced) : Traced :=
  traceTypes reference profile
    (traceModules reference profile
      (traceRenames profile.renames (traceAnnotations sessions profile x)))

theorem tracks_adapt (sessions : List String) (reference profile : Profile) :
    Tracks (adapt sessions reference profile) (trace sessions reference profile) :=
  (tracks_exchangeTypes reference profile).comp <|
    (tracks_exchangeModules reference profile).comp <|
      (tracks_rename profile.renames).comp (tracks_annotate sessions profile)

/-- The lines with the stretches between marker lines changed by `F`; `chunk` is the stretch so
far. -/
def traceLines (F : Traced → Traced) (chunk : Traced) : List Traced → Traced
  | [] => F chunk
  | line :: rest =>
    if isMarker (chars line) then F chunk ++ line ++ traceLines F [] rest
    else traceLines F (chunk ++ line) rest

variable {f : Text → Text} {F : Traced → Traced}

theorem chars_traceLines (h : Tracks f F) (chunk : Traced) (ls : List Traced) :
    chars (traceLines F chunk ls) = adaptLines f (chars chunk) (ls.map chars) := by
  induction ls generalizing chunk with
  | nil => exact h.follows chunk
  | cons line ls ih =>
    rw [traceLines, List.map_cons, adaptLines]
    split
    · rw [chars_append, chars_append, h.follows, ih, chars_nil]
    · rw [ih, chars_append]

theorem from_traceLines (h : Tracks f F) (chunk : Traced) (ls : List Traced) :
    From (chunk ++ ls.flatten) (traceLines F chunk ls) := by
  induction ls generalizing chunk with
  | nil =>
    rw [List.flatten_nil, List.append_nil]
    exact h.keeps chunk
  | cons line ls ih =>
    rw [traceLines, List.flatten_cons, ← List.append_assoc]
    split
    · exact ((h.keeps chunk).append (.refl line)).append (ih [])
    · exact ih (chunk ++ line)

/-- The text in the words of a dialect, marker lines left as they are. -/
def traceOutsideMarkers (sessions : List String) (reference profile : Profile) (x : Traced) :
    Traced :=
  traceLines (trace sessions reference profile) [] x.lines

theorem tracks_adaptOutsideMarkers (sessions : List String) (reference profile : Profile) :
    Tracks (adaptOutsideMarkers sessions reference profile)
      (traceOutsideMarkers sessions reference profile) where
  follows x := by
    rw [traceOutsideMarkers, chars_traceLines (tracks_adapt sessions reference profile),
      map_chars_lines]
    rfl
  keeps x := by
    have hlines := from_traceLines (tracks_adapt sessions reference profile) [] x.lines
    rwa [List.nil_append, flatten_lines] at hlines

end Vocabulary

end Multidialect
