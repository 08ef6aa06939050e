import Multidialect.Generation.Render

/-! # Lints

Settings that have no effect. A lint never keeps anything from being generated.

* `Lint.unknownGate`: a template is not offered that does not exist.
* `Lint.unusedSnippet`: an override names no region.
* `Lint.orphanReplacer`: a replacer is for a template that does not exist.
-/

namespace Multidialect

/-- What a lint looks at. -/
structure LintContext where
  manifest : Manifest
  templates : List Template
  replacers : ReplacerRegistry
  deriving Repr

/-- Whether there is a template of a name. -/
def LintContext.hasTemplate (c : LintContext) (name : String) : Bool :=
  c.templates.any (·.name == name)

/-- A check for settings without effect. -/
structure Lint where
  name : String
  description : String
  check : LintContext → List Diagnostic

namespace Lint

/-- Finds templates that a dialect does not offer and that do not exist: misspelled, they are let
through. -/
def unknownGate : Lint where
  name := "unknown-gate"
  description := "Check that every unsupported template exists"
  check c :=
    c.manifest.profiles.flatMap fun p =>
      (p.unsupported.filter (!c.hasTemplate ·)).map fun name =>
        ⟨.warning, "unknown-gate", s!"'{name}' is gated but no such template exists",
          some ("dialects." ++ p.dialect.name ++ ".unsupported")⟩

/-- The keys of the regions of each template whose markers are in order. -/
def regions (templates : List Template) : List (String × List String) :=
  templates.filterMap fun t =>
    (Region.keys t.source.toList).toOption.map fun keys => (t.name, keys)

/-- Whether an override fills a region: one of its template, or one of any template that the dialect
offers. -/
def isUsed (regions : List (String × List String)) (p : Profile) (key : String) : Bool :=
  match Text.splitOnce? ['.'] key.toList with
  | some (template, region) =>
    regions.any fun (name, keys) =>
      name == String.ofList template && keys.contains (String.ofList region)
  | none => regions.any fun (name, keys) => !p.isUnsupported name && keys.contains key

/-- Finds overrides that fill no region. -/
def unusedSnippet : Lint where
  name := "unused-snippet"
  description := "Check that every snippet override fills a region"
  check c :=
    c.manifest.profiles.flatMap fun p =>
      (p.snippets.keys.filter (!isUsed (regions c.templates) p ·)).map fun key =>
        ⟨.warning, "unused-snippet", s!"snippet override '{key}' matches no region",
          some ("dialects." ++ p.dialect.name ++ ".snippets")⟩

/-- Finds replacers for templates that do not exist. Those of the manifest deserve a warning; those
that are built in may be of no use in a project. -/
def orphanReplacer : Lint where
  name := "orphan-replacer"
  description := "Check that every replacer targets an existing template"
  check c :=
    (c.replacers.keys.filter (!c.hasTemplate ·)).map fun template =>
      let names := String.intercalate ", " (c.replacers.names template)
      let declared := c.manifest.replacers.any (·.template == template)
      ⟨if declared then .warning else .info, "orphan-replacer",
        s!"replacer(s) {names} registered for missing template '{template}'",
        some ("replacers." ++ template)⟩

/-- The lints that every check runs. -/
def standard : List Lint := [unknownGate, unusedSnippet, orphanReplacer]

/-- What lints have to say. -/
def runAll (lints : List Lint) (c : LintContext) : List Diagnostic := lints.flatMap (·.check c)

end Lint

/-- What the standard lints have to say of a project. -/
def Generator.lint (g : Generator) (templates : List Template) : List Diagnostic :=
  Lint.runAll Lint.standard ⟨g.manifest, templates, g.replacers⟩

end Multidialect
