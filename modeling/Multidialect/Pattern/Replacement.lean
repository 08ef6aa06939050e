import Multidialect.Pattern.Program

/-! # Replacements

What a match is replaced with: text in which `$1`, `$name` and `${name}` stand for parts of the
match and `$$` for a dollar sign. A part that does not exist, or did not take part, is empty.

* `Replacement.read`: the parts of a replacement.
* `SearchPattern.replaceAll`: a text with every match replaced.
-/

namespace Multidialect

open Text

/-- A piece of a replacement. -/
inductive ReplacementPart where
  | text (c : Char)
  | numbered (n : Nat)
  | named (name : String)
  deriving DecidableEq, Repr

namespace Replacement

/-- A character of a name without braces. -/
def isNameChar (c : Char) : Bool := c.isAlphanum || c == '_'

/-- The number that a name spells; a plus sign may stand in front. -/
def number? (name : Text) : Option Nat :=
  let digits :=
    match name with
    | '+' :: rest => rest
    | _ => name
  if digits ≠ [] ∧ digits.all Char.isDigit then (String.ofList digits).toNat? else none

/-- The part of the match that a name stands for. -/
def reference (name : Text) : ReplacementPart :=
  match number? name with
  | some n => .numbered n
  | none => .named (String.ofList name)

/-- What a dollar sign stands for together with what follows it, and how many of the characters that
follow belong to it. -/
def dollar (t : Text) : ReplacementPart × Nat :=
  match t with
  | '$' :: _ => (.text '$', 1)
  | '\x7b' :: rest =>
    let name := rest.takeWhile (· != '\x7d')
    if name.length < rest.length then (reference name, name.length + 2) else (.text '$', 0)
  | _ =>
    match t.takeWhile isNameChar with
    | [] => (.text '$', 0)
    | name => (reference name, name.length)

/-- The parts of a replacement of which `skip` characters have been read. -/
def readFrom (skip : Nat) : Text → List ReplacementPart
  | [] => []
  | c :: cs =>
    match skip with
    | skip + 1 => readFrom skip cs
    | 0 =>
      if c = '$' then
        let (part, n) := dollar cs
        part :: readFrom n cs
      else .text c :: readFrom 0 cs

/-- The parts of a replacement. -/
def read (t : Text) : List ReplacementPart := readFrom 0 t

/-- The text of a part for a match. -/
def partText (names : List (String × Nat)) (captures : Captures) : ReplacementPart → Text
  | .text c => [c]
  | .numbered n => ((captures[n]?).join).getD []
  | .named name =>
    match names.lookup name with
    | some n => ((captures[n]?).join).getD []
    | none => []

end Replacement

/-- The text with every match of a pattern replaced. -/
def SearchPattern.replaceAll (p : SearchPattern) (replacement : Text) (t : Text) : Text :=
  let parts := Replacement.read replacement
  replaceSites p.site (fun captures _ => parts.flatMap (Replacement.partText p.names captures)) t

end Multidialect
