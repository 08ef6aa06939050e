import Multidialect.Text.Basic

/-! # Nesting

Cutting a list of type parameters at its own commas: brackets and quoted strings are passed over,
and the `>` of an arrow closes nothing.

* `splitTopLevel`: the cut.
* `parameterNames`: the names that a parameter list declares, without constraints and defaults.
* `parameterCount`: how many parameters it declares.
-/

namespace Multidialect.Text

/-- What has been read of a text so far: the number of open brackets, the quote that is open, and
the last character. -/
structure Nesting where
  depth : Nat
  quote : Option Char
  prev : Char
  deriving DecidableEq, Repr

namespace Nesting

/-- At the start of a text. -/
def start : Nesting := ⟨0, none, '\x00'⟩

/-- A character that opens and closes a string. -/
def isQuote (c : Char) : Bool := c == '\'' || c == '"' || c == '`'

/-- A character that opens a bracket. -/
def isOpening (c : Char) : Bool := c == '<' || c == '(' || c == '[' || c == '\x7b'

/-- A character that closes a bracket. -/
def isClosing (c : Char) : Bool := c == '>' || c == ')' || c == ']' || c == '\x7d'

/-- The nesting after one more character. -/
def next (s : Nesting) (c : Char) : Nesting :=
  match s.quote with
  | some q => { s with quote := if c == q && s.prev != '\\' then none else some q, prev := c }
  | none =>
    if isQuote c then { s with quote := some c, prev := c }
    else if isOpening c then { s with depth := s.depth + 1, prev := c }
    else if c == '>' && s.prev == '=' then { s with prev := c }
    else if isClosing c then { s with depth := s.depth - 1, prev := c }
    else { s with prev := c }

/-- Whether the separator `sep`, met as `c`, cuts here. -/
def cutsAt (s : Nesting) (sep c : Char) : Bool :=
  s.quote.isNone && s.depth == 0 && c == sep && !isQuote c && !isOpening c && !isClosing c

end Nesting

/-- The pieces of a text that continues one with nesting `s`; there is always at least one. -/
def splitTopLevelFrom (sep : Char) (s : Nesting) : Text → List Text
  | [] => [[]]
  | c :: cs =>
    if s.cutsAt sep c then [] :: splitTopLevelFrom sep (s.next c) cs
    else (splitTopLevelFrom sep (s.next c) cs).modifyHead (c :: ·)

/-- The pieces between the separators that stand outside brackets and strings. -/
def splitTopLevel (t : Text) (sep : Char) : List Text := splitTopLevelFrom sep .start t

/-- The name that a parameter starts with. -/
def parameterName (parameter : Text) : Text := (trim parameter).takeWhile isNameChar

/-- The names declared by a parameter list; entries without a name are passed over. -/
def parameterNames (code : Text) : List Text :=
  ((splitTopLevel code ',').map parameterName).filter (· ≠ [])

/-- The parameter list reduced to its names. -/
def stripConstraints (code : Text) : Text := join [',', ' '] (parameterNames code)

/-- The number of entries of a parameter list that are not blank. -/
def parameterCount (code : Text) : Nat :=
  ((splitTopLevel code ',').filter (!isBlankText ·)).length

end Multidialect.Text
