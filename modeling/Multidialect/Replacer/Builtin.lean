import Multidialect.Dialect
import Multidialect.Text.Sites

/-! # Replacers of query functions

Two changes that only some templates need: the aggregate function that collects rows as JSON, and
the way in which the result of a count is read.

* `JsonAggregate.replace`: `json_agg(` becomes the dialect's function.
* `CountDecoding.replace`: `results => Number(results[0].count)` becomes the dialect's way of
  reading one row, and the type of the executed query is adapted to it.
-/

namespace Multidialect

open Text

namespace JsonAggregate

/-- The call that is replaced. -/
def call : Text := "json_agg(".toList

/-- The dialect's call. -/
def function : Dialect → Text
  | .pg => "json_agg(".toList
  | .mysql => "json_arrayagg(".toList
  | .sqlite => "json_group_array(".toList

/-- The text with the calls replaced; there must be one. -/
def replace (d : Dialect) (t : Text) : Except String Text :=
  if (sites (wordSite call) t).isEmpty then .error "expected a `json_agg(` call to rewrite"
  else .ok (exchangeWord call (function d) t)

end JsonAggregate

namespace CountDecoding

/-- A function that reads a number from the first row of a result. -/
structure Closure where
  parameter : Text
  indexed : Text
  field : Text
  deriving DecidableEq, Repr

/-- Whether the row that a closure reads is one of its parameter's. -/
def Closure.isDecoding (c : Closure) : Bool := c.parameter == c.indexed

/-- The word at the front of a text, and what follows it. -/
def word? (t : Text) : Option (Text × Text) :=
  match t.takeWhile isWordChar with
  | [] => none
  | word => some (word, t.dropWhile isWordChar)

/-- A parameter in brackets at the front of a text, and what follows it. -/
def bracketed? (t : Text) : Option (Text × Text) := do
  let (parameter, rest) ← word? (trimStart (← stripStart? ['('] t))
  let rest ← stripStart? [')'] (trimStart rest)
  some (parameter, rest)

/-- What follows the parameter of a closure: the variable indexed, the field, and the rest. -/
def reading? (t : Text) : Option (Text × Text × Text) := do
  let rest ← stripStart? ['=', '>'] (trimStart t)
  let rest ← stripStart? "Number(".toList (trimStart rest)
  let (indexed, rest) ← word? (trimStart rest)
  let (field, rest) ← word? (← stripStart? "[0].".toList rest)
  let rest ← stripStart? [')'] (trimStart rest)
  some (indexed, field, rest)

/-- The closure whose parameter has been read at the front of `after`. -/
def closureWith? (after : Text) (parameter : Option (Text × Text)) : Option (Closure × Nat) := do
  let (parameter, rest) ← parameter
  let (indexed, field, rest) ← reading? rest
  some (⟨parameter, indexed, field⟩, after.length - rest.length)

/-- A closure. -/
def closureSite : Matcher Closure := fun _ after =>
  (closureWith? after (bracketed? after)).or (closureWith? after (word? after))

/-- The closure that reads the row as the dialect returns it. -/
def decoded (d : Dialect) (c : Closure) (covered : Text) : Text :=
  if c.isDecoding then
    match d with
    | .pg => covered
    | .mysql => "([rows]) => Number(rows[0].".toList ++ c.field ++ [')']
    | .sqlite => "row => Number(row.".toList ++ c.field ++ [')']
  else covered

/-- A call that executes a query for an array of rows; what is found is the type of a row. -/
def executeSite : Matcher Text := fun _ after => do
  let rest ← stripStart? ".execute<\x7b".toList after
  let fields := rest.takeWhile (· != '\x7d')
  let rest ← stripStart? "\x7d[]>(".toList (rest.drop fields.length)
  some ('\x7b' :: fields ++ ['\x7d'], after.length - rest.length)

/-- The call as the dialect writes it. -/
def executed (d : Dialect) (row covered : Text) : Text :=
  match d with
  | .pg => covered
  | .mysql => ".execute<[".toList ++ row ++ "[], unknown]>(".toList
  | .sqlite => ".get<".toList ++ row ++ ">(".toList

/-- The text with the closures and the calls replaced; there must be a closure. -/
def replace (d : Dialect) (t : Text) : Except String Text :=
  if (sites closureSite t).any Closure.isDecoding then
    .ok (replaceSites executeSite (executed d) (replaceSites closureSite (decoded d) t))
  else .error "no `results => Number(results[0].<field>)` decoding site found"

end CountDecoding

end Multidialect
