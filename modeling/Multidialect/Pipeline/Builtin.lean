import Multidialect.Pipeline.Basic
import Multidialect.Replacer.Registry
import Multidialect.Template.Comparison
import Multidialect.Template.Residue
import Multidialect.Template.Vocabulary

/-! # The passes

The passes that every rendering runs: replacers on the template as it is written, directives, type
parameters, identifiers, regions, and a last look for what should have been resolved.

* `Pipeline.standard`: all of them.
-/

namespace Multidialect

open Text

/-- Runs replacers on a text, in order, up to the first that refuses it. -/
def Replacer.applyAll (d : Dialect) : List Replacer → Action Draft
  | [] => fun draft => (draft, .ok ())
  | r :: rest => fun draft =>
    if r.appliesTo d then
      match r.apply d draft.text with
      | .ok t => applyAll d rest { draft with text := t }
      | .error message => (draft, .error (.fault (.replacer r.name message)))
    else applyAll d rest draft

namespace Pass

/-- Runs the replacers of the template. -/
def replace (registry : ReplacerRegistry) : Pass where
  name := "replace"
  description := "Apply the custom replacers registered for the template"
  stage := .replace
  run c := Replacer.applyAll c.dialect (registry.replacers c.template.name)

/-- Carries out what depends on the dialect alone. -/
def directives : Pass :=
  ofText "directives"
    "Apply insert/remove directives, substitute the dialect placeholder, fold literal comparisons"
    .directives fun c t =>
      Directive.resolveAll c.dialect c.manifest.generator.placeholder.toList t

/-- Puts the dialect's type parameters in, and remarks when there was no place for them. -/
def typeParams : Pass where
  name := "type-params"
  description :=
    "Inject extra generic parameters at builder declarations, query usages and references"
  stage := .typeParams
  run c d :=
    match c.profile.typeParams with
    | none => (d, .ok ())
    | some p =>
      if p.slots = 0 then (d, .ok ())
      else
        let (text, sites) := Generics.inject c.manifest.types p d.text
        let d := { d with text }
        (if sites.total = 0 then d.addInfo c "type-params" "no builder or query type sites found"
          else d, .ok ())

/-- Puts the text into the dialect's words. -/
def identifiers : Pass :=
  ofText "identifiers"
    "Rename module paths, type prefixes, session annotations and explicit renames"
    .identifiers fun c t =>
      .ok (Vocabulary.adaptOutsideMarkers c.manifest.types.sessions c.reference c.profile t)

/-- Fills the regions. -/
def snippets : Pass :=
  ofText "snippets" "Fill snippet regions with dialect overrides or their default text" .snippets
    fun c t =>
      (Region.parse t).map
        (Region.fill fun key => (c.profile.snippet? c.template.name key).map String.toList)

/-- Refuses a text in which a directive or a marker is left. -/
def verify : Pass :=
  ofText "verify" "Reject output that still contains directives or snippet markers" .verify
    fun c t =>
      match residue? t with
      | some (line, marker) => .error (.residue c.dialect.name (String.ofList marker) line)
      | none => .ok t

end Pass

/-- The passes that every rendering runs. -/
def Pipeline.standard (registry : ReplacerRegistry) : Pipeline :=
  empty.addPasses
    [.replace registry, .directives, .typeParams, .identifiers, .snippets, .verify]

end Multidialect
