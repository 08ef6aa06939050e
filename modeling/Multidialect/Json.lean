/-! # JSON

Values as they are written to snapshots, stubs and listings: indented by two spaces, one element or
member a line.

* `Json.render`: the text of a value.
-/

namespace Multidialect

/-- A JSON value. -/
inductive Json where
  | null
  | string (s : String)
  | array (elements : List Json)
  | object (members : List (String × Json))
  deriving Repr

namespace Json

/-- The four digits of a character's number in hexadecimal. -/
def hex4 (n : Nat) : List Char :=
  [n / 4096 % 16, n / 256 % 16, n / 16 % 16, n % 16].map fun d => d.digitChar

/-- A character as it is written in a string. -/
def escape (c : Char) : List Char :=
  match c with
  | '"' => ['\\', '"']
  | '\\' => ['\\', '\\']
  | '\n' => ['\\', 'n']
  | '\r' => ['\\', 'r']
  | '\t' => ['\\', 't']
  | '\x08' => ['\\', 'b']
  | '\x0c' => ['\\', 'f']
  | c => if c.toNat < 0x20 then '\\' :: 'u' :: hex4 c.toNat else [c]

/-- A string with its quotes. -/
def quote (s : String) : List Char := '"' :: s.toList.flatMap escape ++ ['"']

/-- A new line, indented. -/
def newline (depth : Nat) : List Char := '\n' :: List.replicate (2 * depth) ' '

mutual

/-- A value inside `depth` others. -/
def renderAt (depth : Nat) : Json → List Char
  | .null => ['n', 'u', 'l', 'l']
  | .string s => quote s
  | .array [] => ['[', ']']
  | .array (v :: vs) =>
    '[' :: newline (depth + 1) ++ renderAt (depth + 1) v ++ renderElements (depth + 1) vs ++
      newline depth ++ [']']
  | .object [] => ['\x7b', '\x7d']
  | .object ((key, v) :: ms) =>
    '\x7b' :: newline (depth + 1) ++ quote key ++ [':', ' '] ++ renderAt (depth + 1) v ++
      renderMembers (depth + 1) ms ++ newline depth ++ ['\x7d']

/-- The elements of an array behind the first. -/
def renderElements (depth : Nat) : List Json → List Char
  | [] => []
  | v :: vs => ',' :: newline depth ++ renderAt depth v ++ renderElements depth vs

/-- The members of an object behind the first. -/
def renderMembers (depth : Nat) : List (String × Json) → List Char
  | [] => []
  | (key, v) :: ms =>
    ',' :: newline depth ++ quote key ++ [':', ' '] ++ renderAt depth v ++ renderMembers depth ms

end

/-- The text of a value. -/
def render (v : Json) : String := String.ofList (renderAt 0 v)

end Json

end Multidialect
