import Multidialect.Text.Sites
import Multidialect.TypeParams

/-! # Generic parameters

A dialect's extra type parameters go in front of the parameter lists of the query builder and of the
query types. Where the builder is declared they are spelled out, where a query type is applied they
are named, and anywhere else the builder takes one `any` for each.

* `Generics.builderSite`, `Generics.querySite`: the parameter lists concerned.
* `Generics.inject`: the text with the parameters put in, builder first; `InjectedSites` counts
  them.
-/

namespace Multidialect

open Text

/-- The canonical names of the types that take extra parameters or arguments. -/
structure TypeNames where
  builder : String
  queries : List String
  sessions : List String
  deriving DecidableEq, Repr

/-- How many parameter lists of each kind were extended. -/
structure InjectedSites where
  declarations : Nat
  usages : Nat
  references : Nat
  deriving DecidableEq, Repr

/-- The number of parameter lists of all kinds. -/
def InjectedSites.total (s : InjectedSites) : Nat := s.declarations + s.usages + s.references

namespace Generics

/-- The start of a parameter list: whether a keyword declares it, and the white space behind `<`. -/
structure Opening where
  declared : Bool
  blanks : Text
  deriving DecidableEq, Repr

/-- The name and `<` at the front of a text; the answer is the white space behind `<` and the number
of characters up to its end. -/
def opening? (name t : Text) : Option (Text × Nat) := do
  match ← stripStart? name t with
  | '<' :: rest =>
    let blanks := rest.takeWhile isBlank
    some (blanks, name.length + 1 + blanks.length)
  | _ => none

/-- The keywords that declare a generic type. -/
def keywords : List Text := ["interface".toList, "class".toList, "type".toList]

/-- A keyword, white space, the name and `<` at the front of a text. -/
def declaration? (name t : Text) : Option (Text × Nat) :=
  keywords.findSome? fun keyword => do
    let rest ← stripStart? keyword t
    (blankSplits rest).findSome? fun (ws, rest) => do
      if ws = [] then none
      else
        let (blanks, n) ← opening? name rest
        some (blanks, keyword.length + ws.length + n)

/-- A parameter list of the builder. -/
def builderSite (name : Text) : Matcher Opening := fun before after =>
  if atWordBoundary before after then
    ((declaration? name after).map fun (blanks, n) => (⟨true, blanks⟩, n)).or
      ((opening? name after).map fun (blanks, n) => (⟨false, blanks⟩, n))
  else none

/-- A parameter list of a query type; what is found is the white space behind `<`. -/
def querySite (name : Text) : Matcher Text := fun before after =>
  if atWordBoundary before after then opening? name after else none

/-- What separates new parameters from the old ones: a comma and the white space that the old ones
had in front. -/
def separator (blanks : Text) : Text := if blanks = [] then [',', ' '] else ',' :: blanks

/-- The text with the parameters put into the builder's parameter lists. -/
def injectBuilder (name : Text) (p : TypeParams) (t : Text) : Text :=
  replaceSites (builderSite name)
    (fun o covered =>
      covered ++ (if o.declared then p.code else p.permissive) ++ separator o.blanks) t

/-- The text with the parameters put into the parameter lists of a query type. -/
def injectQuery (name : Text) (p : TypeParams) (t : Text) : Text :=
  replaceSites (querySite name) (fun blanks covered => covered ++ p.arguments ++ separator blanks) t

/-- The text with the parameters put into the lists of each query type in turn, and the number of
those lists. -/
def injectQueries (p : TypeParams) : List String → Text → Text × Nat
  | [], t => (t, 0)
  | query :: rest, t =>
    let count := (sites (querySite query.toList) t).length
    let (t, more) := injectQueries p rest (injectQuery query.toList p t)
    (t, count + more)

/-- The text with the parameters put in everywhere, and the numbers of sites. -/
def inject (types : TypeNames) (p : TypeParams) (t : Text) : Text × InjectedSites :=
  let openings := sites (builderSite types.builder.toList) t
  let (result, usages) := injectQueries p types.queries (injectBuilder types.builder.toList p t)
  (result, {
    declarations := (openings.filter (·.declared)).length
    usages
    references := (openings.filter (!·.declared)).length })

end Generics

end Multidialect
