import Multidialect.Manifest.Basic
import Multidialect.Toml.Value

/-! # Manifests as documents

How a document spells a manifest. A section is a table of settings; settings that are not known are
refused, and those that are absent have standard values. A section may also be written as an array
of its settings in their order.

* `Manifest.ofDocument?`: the manifest that a document spells.
-/

namespace Multidialect

namespace Toml

/-- The text that a value is. -/
def Value.text? : Value → Option String
  | .string s => some s
  | _ => none

/-- The truth value that a value is. -/
def Value.truth? : Value → Option Bool
  | .boolean b => some b
  | _ => none

/-- The number that a value is, if it can count something. -/
def Value.count? : Value → Option Nat
  | .integer n => if 0 ≤ n ∧ n.toNat < UInt64.size then some n.toNat else none
  | _ => none

/-- The path that a value is. -/
def Value.path? (v : Value) : Option Path := v.text?.map Path.mk

/-- The list that a value is. -/
def Value.list? {α : Type} (element? : Value → Option α) : Value → Option (List α)
  | .array vs => vs.mapM element?
  | _ => none

/-- The dictionary that a value is. -/
def Value.dictionary? : Value → Option (Dictionary String)
  | .table entries => entries.mapM fun (key, v) => v.text?.map fun s => (key, s)
  | _ => none

/-- The dialect that a value is: its name, or a table in which nothing stands but the name, with
nothing under it. -/
def Value.dialect? : Value → Option Dialect
  | .string s => Dialect.ofTag? s
  | .table [(s, .table [])] => Dialect.ofTag? s
  | .table [(s, .array [])] => Dialect.ofTag? s
  | _ => none

/-- The settings of a section by name. As an array, a section has at least `least` settings. -/
def Value.section? (names : List String) (least : Nat) : Value → Option Entries
  | .table entries => if entries.all (names.contains ·.1) then some entries else none
  | .array vs => if least ≤ vs.length then some (names.zip vs) else none
  | _ => none

/-- A setting that need not be given. -/
def Entries.optional? {α : Type} (entries : Entries) (decode? : Value → Option α) (name : String) :
    Option (Option α) :=
  match entries.lookup name with
  | none => some none
  | some v => (decode? v).map some

/-- A setting with a standard value. -/
def Entries.setting? {α : Type} (entries : Entries) (decode? : Value → Option α) (name : String)
    (standard : α) : Option α :=
  (entries.optional? decode? name).map (·.getD standard)

/-- A setting that must be given. -/
def Entries.required? {α : Type} (entries : Entries) (decode? : Value → Option α) (name : String) :
    Option α :=
  (entries.lookup name).bind decode?

end Toml

open Toml

/-- The settings of a run that a value spells. -/
def GeneratorSettings.ofValue? (v : Value) : Option GeneratorSettings := do
  let standard := GeneratorSettings.standard
  let e ← v.section?
    ["templates", "output", "reference", "placeholder", "extensions", "tsconfig",
      "tsconfig_extends", "extras_target", "barrel"] 0
  some {
    templates := ← e.setting? Value.path? "templates" standard.templates
    output := ← e.setting? Value.path? "output" standard.output
    reference := ← e.setting? Value.dialect? "reference" standard.reference
    placeholder := ← e.setting? Value.text? "placeholder" standard.placeholder
    extensions := ← e.setting? (Value.list? Value.text?) "extensions" standard.extensions
    tsconfig := ← e.setting? Value.truth? "tsconfig" standard.tsconfig
    tsconfigExtends := ← e.setting? Value.text? "tsconfig_extends" standard.tsconfigExtends
    extrasTarget := ← e.setting? Value.path? "extras_target" standard.extrasTarget
    barrel := ← e.setting? Value.text? "barrel" standard.barrel }

/-- The type names that a value spells. -/
def TypeNames.ofValue? (v : Value) : Option TypeNames := do
  let standard := TypeNames.standard
  let e ← v.section? ["builder", "queries", "sessions"] 0
  some {
    builder := ← e.setting? Value.text? "builder" standard.builder
    queries := ← e.setting? (Value.list? Value.text?) "queries" standard.queries
    sessions := ← e.setting? (Value.list? Value.text?) "sessions" standard.sessions }

/-- The overrides that a value spells. -/
def Overrides.ofValue? (v : Value) : Option Overrides := do
  let e ← v.section?
    ["module_prefix", "type_prefix", "type_params", "type_param_slots", "session_params",
      "renames", "unsupported", "snippets", "extras"] 9
  some {
    modulePrefix := ← e.optional? Value.text? "module_prefix"
    typePrefix := ← e.optional? Value.text? "type_prefix"
    typeParams := ← e.optional? Value.text? "type_params"
    typeParamSlots := ← e.optional? Value.count? "type_param_slots"
    sessionParams := ← e.optional? Value.text? "session_params"
    renames := ← e.setting? Value.dictionary? "renames" []
    unsupported := ← e.optional? (Value.list? Value.text?) "unsupported"
    snippets := ← e.setting? Value.dictionary? "snippets" []
    extras := ← e.optional? Value.path? "extras" }

/-- The replacer that a value spells. -/
def ReplacerSettings.ofValue? (v : Value) : Option ReplacerSettings := do
  let e ← v.section? ["template", "dialects", "pattern", "replacement", "required"] 4
  some {
    template := ← e.required? Value.text? "template"
    dialects := ← e.optional? (Value.list? Value.dialect?) "dialects"
    pattern := ← e.required? Value.text? "pattern"
    replacement := ← e.required? Value.text? "replacement"
    required := ← e.setting? Value.truth? "required" false }

/-- The overrides of all dialects that a value spells. -/
def Overrides.tableOfValue? : Value → Option (List (Dialect × Overrides))
  | .table entries =>
    entries.mapM fun (key, v) => do some (← Dialect.ofTag? key, ← Overrides.ofValue? v)
  | _ => none

/-- The manifest that a document spells. -/
def Manifest.ofDocument? (document : Entries) : Option Manifest := do
  let e ← (Value.table document).section? ["generator", "types", "dialects", "replacers"] 0
  some {
    generator := ← e.setting? GeneratorSettings.ofValue? "generator" .standard
    types := ← e.setting? TypeNames.ofValue? "types" .standard
    dialects := ← e.setting? Overrides.tableOfValue? "dialects" []
    replacers := ← e.setting? (Value.list? ReplacerSettings.ofValue?) "replacers" [] }

end Multidialect
