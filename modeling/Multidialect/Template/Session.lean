import Multidialect.Text.Sites

/-! # Session annotations

A type annotation `: Session` of a session type gains the dialect's type arguments, unless it has
some already.
-/

namespace Multidialect.Session

open Text

/-- A white-space run and `<`, at the front of a text. -/
def argumentsStart? (t : Text) : Option Text :=
  match trimStart t with
  | '<' :: _ => some (t.takeWhile isBlank ++ ['<'])
  | _ => none

/-- An annotation with the type `session`; what is found is whether it has type arguments, in which
case their `<` is covered too. -/
def site (session : Text) : Matcher Bool := fun before after =>
  match after with
  | ':' :: rest =>
    (blankSplits rest).findSome? fun (ws, rest) => do
      let rest ← stripStart? session rest
      let covered := ':' :: ws ++ session
      if atWordBoundary (covered.reverse ++ before) rest then
        match argumentsStart? rest with
        | some more => some (true, covered.length + more.length)
        | none => some (false, covered.length)
      else none
  | _ => none

/-- The text with `params` added to the annotations that have no type arguments. -/
def addParams (session params t : Text) : Text :=
  replaceSites (site session)
    (fun hasArguments covered =>
      if hasArguments then covered else covered ++ '<' :: params ++ ['>']) t

/-- The number of annotations without type arguments. -/
def bareCount (session t : Text) : Nat := ((sites (site session) t).filter (!·)).length

end Multidialect.Session
