import Multidialect.Dialect
import Multidialect.Dictionary
import Multidialect.Path
import Multidialect.TypeParams

/-! # Dialect profiles

What is known about a dialect: how its modules and types are called, which type parameters its
builder takes, which templates it cannot offer, and what stands in its regions. Each dialect has a
built-in profile, which a manifest may override.

* `Profile.snippet?`: the override for a region; one for this template alone goes first.
* `Profile.merge`: a profile with a manifest's overrides applied.
-/

namespace Multidialect

open Text

/-- The overrides of one dialect in a manifest; what is absent is left as it is built in. -/
structure Overrides where
  modulePrefix : Option String
  typePrefix : Option String
  typeParams : Option String
  typeParamSlots : Option Nat
  sessionParams : Option String
  renames : Dictionary String
  unsupported : Option (List String)
  snippets : Dictionary String
  extras : Option Path
  deriving DecidableEq, Repr

namespace Overrides

/-- No overrides. -/
def nothing : Overrides := ⟨none, none, none, none, none, [], none, [], none⟩

/-- The settings that say something about variants only, by name. -/
def variantOnlyFields (o : Overrides) : List String :=
  [("type_params", o.typeParams.isSome), ("type_param_slots", o.typeParamSlots.isSome),
    ("session_params", o.sessionParams.isSome), ("renames", !o.renames.isEmpty),
    ("unsupported", o.unsupported.any (!·.isEmpty)), ("snippets", !o.snippets.isEmpty)].filterMap
    fun (field, given) => if given then some field else none

end Overrides

/-- All that is known about a dialect. -/
structure Profile where
  dialect : Dialect
  modulePrefix : String
  typePrefix : String
  typeParams : Option TypeParams
  sessionParams : Option Text
  renames : Dictionary String
  unsupported : List String
  snippets : Dictionary String
  extras : Option Path
  deriving DecidableEq, Repr

namespace Profile

/-- Whether the dialect cannot offer a template. -/
def isUnsupported (p : Profile) (template : String) : Bool := p.unsupported.contains template

/-- The override for the region `key` of a template: one for that template, else one for every
template. -/
def snippet? (p : Profile) (template key : String) : Option String :=
  (p.snippets.get? (template ++ "." ++ key)).or (p.snippets.get? key)

/-- A text without the white space around it, if anything is left. -/
def meaningful? (t : Text) : Option Text := if isBlankText t then none else some (trim t)

/-- The profile with a manifest's overrides applied. Names and regions are added to the ones there
are; the list of templates that are not offered is replaced; blank parameters stand for none. -/
def merge (p : Profile) (o : Overrides) : Profile where
  dialect := p.dialect
  modulePrefix := o.modulePrefix.getD p.modulePrefix
  typePrefix := o.typePrefix.getD p.typePrefix
  typeParams :=
    match o.typeParams with
    | some code => (meaningful? code.toList).map TypeParams.mk
    | none => p.typeParams
  sessionParams :=
    match o.sessionParams with
    | some params => meaningful? params.toList
    | none => p.sessionParams
  renames := p.renames.extend o.renames
  unsupported :=
    match o.unsupported with
    | some names => Dictionary.distinct names
    | none => p.unsupported
  snippets := p.snippets.extend o.snippets
  extras := o.extras.or p.extras

end Profile

/-- What is built in about a dialect. -/
def Dialect.profile : Dialect → Profile
  | .pg => ⟨.pg, "pg", "Pg", none, none, [], [], [], none⟩
  | .mysql => {
      dialect := .mysql
      modulePrefix := "mysql"
      typePrefix := "MySql"
      typeParams := some
        ⟨"TPreparedQueryHKT extends import('drizzle-orm/mysql-core').PreparedQueryHKTBase".toList⟩
      sessionParams := some "any, any".toList
      renames := []
      unsupported := ["upsert", "$withMaterialized"]
      snippets := []
      extras := none }
  | .sqlite => {
      dialect := .sqlite
      modulePrefix := "sqlite"
      typePrefix := "SQLite"
      typeParams := some ⟨"TMode extends 'sync' | 'async'".toList⟩
      sessionParams := some "'sync' | 'async', any".toList
      renames := []
      unsupported := []
      snippets := []
      extras := none }

end Multidialect
