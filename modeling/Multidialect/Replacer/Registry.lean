import Multidialect.Manifest.Basic
import Multidialect.Pattern.Reader
import Multidialect.Pattern.Replacement
import Multidialect.Replacer.Builtin

/-! # Replacers

A replacer changes one template where the general rules cannot. A registry holds the replacers of
each template in the order in which they run.

* `Replacer.apply`: what a replacer does to a text.
* `ReplacerRegistry.ofManifest`: the built-in replacers and those of a manifest.
-/

namespace Multidialect

/-- A change to one template. -/
inductive Replacer where
  | jsonAggregate
  | countDecoding
  /-- A search and replacement; if it is required, there must be a match. -/
  | search (name : String) (dialects : Option (List Dialect)) (pattern : SearchPattern)
      (replacement : String) (required : Bool)
  deriving Repr

namespace Replacer

/-- The name of a replacer. -/
def name : Replacer → String
  | .jsonAggregate => "json-aggregate"
  | .countDecoding => "count-decoding"
  | .search name .. => name

/-- Whether a replacer is meant for a dialect. -/
def appliesTo (d : Dialect) : Replacer → Bool
  | .search _ dialects _ _ _ => dialects.all (·.contains d)
  | _ => true

/-- The text as a dialect needs it, or why it cannot be had. -/
def apply (d : Dialect) (t : Text) : Replacer → Except String Text
  | .jsonAggregate => JsonAggregate.replace d t
  | .countDecoding => CountDecoding.replace d t
  | .search _ _ pattern replacement required =>
    if required && !pattern.occursIn t then
      let written := pattern.written
      .error s!"pattern `{written}` matched nothing"
    else .ok (pattern.replaceAll replacement.toList t)

/-- The replacer with number `index` of a manifest, if its pattern denotes one. -/
def ofSettings? (index : Nat) (r : ReplacerSettings) : Option Replacer :=
  (Pattern.read? r.pattern).map fun pattern =>
    .search s!"pattern#{index}" r.dialects pattern r.replacement r.required

end Replacer

/-- The replacers of each template, in order. -/
abbrev ReplacerRegistry := Dictionary (List Replacer)

namespace ReplacerRegistry

/-- The replacers of a template. -/
def replacers (r : ReplacerRegistry) (template : String) : List Replacer :=
  (r.get? template).getD []

/-- The registry with one more replacer for a template. -/
def register (r : ReplacerRegistry) (template : String) (replacer : Replacer) : ReplacerRegistry :=
  r.insert template (r.replacers template ++ [replacer])

/-- The names of a template's replacers. -/
def names (r : ReplacerRegistry) (template : String) : List String :=
  (r.replacers template).map Replacer.name

/-- The replacers that are built in. -/
def builtins : ReplacerRegistry :=
  [("jsonAgg", [.jsonAggregate]), ("count", [.countDecoding]),
    ("findManyAndCount", [.countDecoding])]

/-- The registry with the replacers of a manifest from number `index` on. A pattern that denotes
nothing has no replacer; a manifest that has been checked holds none. -/
def extendFrom (r : ReplacerRegistry) (index : Nat) : List ReplacerSettings → ReplacerRegistry
  | [] => r
  | settings :: rest =>
    match Replacer.ofSettings? index settings with
    | some replacer => extendFrom (r.register settings.template replacer) (index + 1) rest
    | none => extendFrom r (index + 1) rest

/-- The built-in replacers, and behind them those of a manifest. -/
def ofManifest (m : Manifest) : ReplacerRegistry := extendFrom builtins 0 m.replacers

end ReplacerRegistry

end Multidialect
