import Multidialect.Profile
import Multidialect.Template.Session
import Multidialect.Template.Region

/-! # The vocabulary of a dialect

A template speaks of modules and types in the words of the reference dialect. For a variant, session
annotations gain their arguments, whole identifiers are renamed, and then the reference's prefixes
are exchanged for the variant's: `pg-` in module paths, `Pg` in front of type names.

* `Vocabulary.renameIdentifier`, `Text.exchangeWord`: the steps.
* `Vocabulary.adapt`: the steps in their order.
* `Vocabulary.adaptOutsideMarkers`: the same, with marker lines left as they are, so that regions
  keep the keys that overrides are written under.
-/

namespace Multidialect.Vocabulary

open Text

/-- Whether an identifier ends in a letter, a number or `_`, so that its end can be told from a
longer word. -/
def endsInWord (name : Text) : Bool := name.getLast?.any isTagChar

/-- The name at the front of a text that follows `lead`, where no word goes on behind it. -/
def identifier? (name lead before t : Text) : Option (Text × Nat) := do
  let rest ← stripStart? name t
  if endsInWord name && !atWordBoundary (name.reverse ++ lead ++ before) rest then none
  else some (lead, lead.length + name.length)

/-- The name as an identifier, at the start of the text or behind a character that is part of no
identifier, which is what is found. -/
def identifierSite (name : Text) : Matcher Text := fun before after =>
  (if before = [] then identifier? name [] before after else none).or
    (match after with
    | c :: cs => if isIdentifierChar c then none else identifier? name [c] before cs
    | [] => none)

/-- The text with an identifier renamed. -/
def renameIdentifier (source target t : Text) : Text :=
  replaceSites (identifierSite source) (fun lead _ => lead ++ target) t

/-- The text with type arguments at the annotations of the session types. -/
def annotate (sessions : List String) (profile : Profile) (t : Text) : Text :=
  match profile.sessionParams with
  | none => t
  | some params =>
    sessions.foldl (fun t session => Session.addParams session.toList params t) t

/-- The text with the identifiers of a dictionary renamed, in order. -/
def rename (renames : Dictionary String) (t : Text) : Text :=
  renames.foldl (fun t entry => renameIdentifier entry.1.toList entry.2.toList t) t

/-- The text with the reference's prefix in module paths exchanged for the dialect's. -/
def exchangeModules (reference profile : Profile) (t : Text) : Text :=
  if reference.modulePrefix = profile.modulePrefix then t
  else
    exchangeWord (reference.modulePrefix.toList ++ ['-']) (profile.modulePrefix.toList ++ ['-']) t

/-- The text with the reference's prefix of type names exchanged for the dialect's. -/
def exchangeTypes (reference profile : Profile) (t : Text) : Text :=
  if reference.typePrefix = profile.typePrefix then t
  else exchangeWord reference.typePrefix.toList profile.typePrefix.toList t

/-- The text in the words of a dialect. -/
def adapt (sessions : List String) (reference profile : Profile) (t : Text) : Text :=
  exchangeTypes reference profile
    (exchangeModules reference profile (rename profile.renames (annotate sessions profile t)))

/-- The lines with the stretches between marker lines adapted by `f`; `chunk` is the stretch so
far. -/
def adaptLines (f : Text → Text) (chunk : Text) : List Text → Text
  | [] => f chunk
  | line :: rest =>
    if isMarker line then f chunk ++ line ++ adaptLines f [] rest
    else adaptLines f (chunk ++ line) rest

/-- The text in the words of a dialect, marker lines left as they are. -/
def adaptOutsideMarkers (sessions : List String) (reference profile : Profile) (t : Text) : Text :=
  adaptLines (adapt sessions reference profile) [] (physicalLines t)

end Multidialect.Vocabulary
