import Multidialect.Profile
import Multidialect.Template.Generics

/-! # Manifests

A manifest says where the templates are and where the modules go, how the canonical types are
called, what each dialect does differently, and which templates need a change of their own.

* `Manifest.profile`: the profile of a dialect, with the manifest's overrides.
* `Manifest.variants`: the dialects that are not the reference.
-/

namespace Multidialect

/-- The settings of a run. -/
structure GeneratorSettings where
  templates : Path
  output : Path
  reference : Dialect
  placeholder : String
  extensions : List String
  tsconfig : Bool
  tsconfigExtends : String
  extrasTarget : Path
  barrel : String
  deriving DecidableEq, Repr

/-- A search and replacement for one template. -/
structure ReplacerSettings where
  template : String
  dialects : Option (List Dialect)
  pattern : String
  replacement : String
  required : Bool
  deriving DecidableEq, Repr

/-- Whether a replacer is meant for a dialect. -/
def ReplacerSettings.appliesTo (r : ReplacerSettings) (d : Dialect) : Bool :=
  r.dialects.all (·.contains d)

/-- A manifest. Overrides stand in the order of the dialects' names. -/
structure Manifest where
  generator : GeneratorSettings
  types : TypeNames
  dialects : List (Dialect × Overrides)
  replacers : List ReplacerSettings
  deriving DecidableEq, Repr

/-- The settings of a run that is told nothing. -/
def GeneratorSettings.standard : GeneratorSettings where
  templates := ⟨"src/dialect"⟩
  output := ⟨"src"⟩
  reference := .pg
  placeholder := "DIALECT"
  extensions := ["ts"]
  tsconfig := true
  tsconfigExtends := "../../tsconfig.json"
  extrasTarget := ⟨"functions"⟩
  barrel := "index.ts"

/-- The canonical type names where none are given. -/
def TypeNames.standard : TypeNames where
  builder := "RelationalQueryBuilder"
  queries := ["PgRelationalQuery"]
  sessions := ["PgSession"]

namespace Manifest

/-- The manifest that says nothing. -/
def standard : Manifest := ⟨.standard, .standard, [], []⟩

/-- The dialect that templates are written in. -/
def reference (m : Manifest) : Dialect := m.generator.reference

/-- The profile of a dialect. -/
def profile (m : Manifest) (d : Dialect) : Profile :=
  match m.dialects.lookup d with
  | some overrides => d.profile.merge overrides
  | none => d.profile

/-- The profile of the reference dialect. -/
def referenceProfile (m : Manifest) : Profile := m.profile m.reference

/-- The profiles of all dialects. -/
def profiles (m : Manifest) : List Profile := Dialect.all.map m.profile

/-- The dialects that are generated from the reference. -/
def variants (m : Manifest) : List Dialect := Dialect.all.filter (· ≠ m.reference)

end Manifest

end Multidialect
