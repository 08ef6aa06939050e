import Multidialect.Dialect
import Multidialect.Text.Sites

/-! # The dialect placeholder

A template compares a placeholder with dialect names (`DIALECT === 'mysql'`). For each dialect the
placeholder becomes that dialect's name in quotes wherever it is an operand of `===` or `!==`.

* `Placeholder.leftOperand`, `Placeholder.rightOperand`: where the placeholder is an operand.
* `Placeholder.substitute`: the text with all operands replaced, left ones first.
-/

namespace Multidialect

open Text

/-- The operator `===` or `!==` at the front of a text, and what follows it. -/
def Text.comparison? : Text → Option (Text × Text)
  | '=' :: '=' :: '=' :: rest => some (['=', '=', '='], rest)
  | '!' :: '=' :: '=' :: rest => some (['!', '=', '='], rest)
  | _ => none

namespace Placeholder

/-- The name, and behind it an operator, at the front of a text that follows `lead`. -/
def operand? (name lead t : Text) : Option ((Text × Text) × Nat) := do
  let rest ← stripStart? name t
  let (op, _) ← comparison? (trimStart rest)
  let tail := rest.takeWhile isBlank ++ op
  some ((lead, tail), lead.length + name.length + tail.length)

/-- The name in front of an operator, at the start of the text or behind a character that is part of
no identifier. What is found is the text around the name. -/
def leftOperand (name : Text) : Matcher (Text × Text) := fun before after =>
  (if before = [] then operand? name [] after else none).or
    (match after with
    | c :: cs => if isIdentifierChar c then none else operand? name [c] cs
    | [] => none)

/-- The name behind an operator, at the end of the text or before a character that is part of no
identifier. What is found is the text around the name. -/
def rightOperand (name : Text) : Matcher (Text × Text) := fun _ after => do
  let (op, rest) ← comparison? after
  (blankSplits rest).findSome? fun (ws, rest) => do
    let rest ← stripStart? name rest
    let lead := op ++ ws
    match rest with
    | [] => some ((lead, []), lead.length + name.length)
    | c :: _ =>
      if isIdentifierChar c then none else some ((lead, [c]), lead.length + name.length + 1)

/-- A dialect's name in quotes. -/
def quoted (d : Dialect) : Text := '\'' :: d.name.toList ++ ['\'']

/-- The text with the placeholder replaced where it is an operand. -/
def substitute (name : Text) (d : Dialect) (t : Text) : Text :=
  let put (around : Text × Text) (_ : Text) : Text := around.1 ++ quoted d ++ around.2
  replaceSites (rightOperand name) put (replaceSites (leftOperand name) put t)

end Placeholder

end Multidialect
