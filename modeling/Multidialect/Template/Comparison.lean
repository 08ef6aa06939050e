import Multidialect.Template.Directive
import Multidialect.Template.Placeholder

/-! # Comparisons of literals

A comparison of two string literals has a known value. `Comparison.fold` writes that value in its
place, unless an operator that binds more tightly than `===` takes one of the literals away.

* `Comparison.value`: what a comparison is worth; a backslash stands for the character behind it.
* `Comparison.boundBefore`, `Comparison.boundAfter`: whether a neighbour binds more tightly.
-/

namespace Multidialect

open Text

/-- A comparison of two string literals; the literals are kept as written between their quotes. -/
structure Comparison where
  left : Text
  negated : Bool
  right : Text
  deriving DecidableEq, Repr

namespace Comparison

/-- The body of a string literal behind its opening quote `q`, and what follows the literal. A
literal ends on the line on which it starts. -/
def body? (q : Char) : Text → Option (Text × Text)
  | [] => none
  | c :: cs =>
    if c = q then some ([], cs)
    else if c = '\n' then none
    else if c = '\\' then
      match cs with
      | [] => none
      | d :: ds =>
        if d = '\n' then none else (body? q ds).map fun (body, rest) => (c :: d :: body, rest)
    else (body? q cs).map fun (body, rest) => (c :: body, rest)

/-- The string literal at the front of a text, and what follows it. -/
def literal? : Text → Option (Text × Text)
  | [] => none
  | c :: cs => if c = '\'' ∨ c = '"' then body? c cs else none

/-- The comparison at the front of a text, and what follows it. -/
def parse? (t : Text) : Option (Comparison × Text) := do
  let (left, rest) ← literal? t
  let (op, rest) ← comparison? (trimStart rest)
  let (right, rest) ← literal? (trimStart rest)
  some (⟨left, op = ['!', '=', '='], right⟩, rest)

/-- The characters that a literal stands for: a backslash stands for the character behind it. -/
def unescape : Text → Text
  | [] => []
  | ['\\'] => []
  | '\\' :: c :: cs => c :: unescape cs
  | c :: cs => c :: unescape cs

/-- What a comparison is worth. -/
def value (c : Comparison) : Bool := (unescape c.left == unescape c.right) != c.negated

/-- Whether the operand that ends a text, given last character first, is bound by an operator
tighter than `===`. -/
def boundBefore (before : Text) : Bool :=
  let before := before.dropWhile isBlank
  let follows (op : String) : Bool := op.toList.reverse.isPrefixOf before
  !follows "=>" &&
    (["==", "!=", "<=", ">="].any follows ||
      before.head?.any (['+', '-', '*', '/', '%', '<', '>', '!', '~'].contains ·) ||
      ["typeof", "void", "await", "in", "instanceof"].contains
        (String.ofList (before.takeWhile isNameChar).reverse))

/-- Whether the operand that starts a text is bound by an operator tighter than `===`. -/
def boundAfter (after : Text) : Bool :=
  let after := after.dropWhile isBlank
  let starts (op : String) : Bool := op.toList.isPrefixOf after
  !starts "//" && !starts "/*" &&
    (starts "?." ||
      after.head?.any (['+', '-', '*', '/', '%', '<', '>', '.', '['].contains ·) ||
      ["in", "instanceof"].contains (String.ofList (after.takeWhile isNameChar)))

/-- A comparison of two literals, with its value if both literals are its operands. -/
def site : Matcher (Option Bool) := fun before after => do
  let (c, rest) ← parse? after
  let bound := boundBefore before || boundAfter rest
  some (if bound then none else some c.value, after.length - rest.length)

/-- The word for a truth value. -/
def truthText (b : Bool) : Text := if b then "true".toList else "false".toList

/-- The text with each comparison of literals replaced by its value. -/
def fold (t : Text) : Text :=
  replaceSites site (fun value covered => (value.map truthText).getD covered) t

end Comparison

/-- The text with everything carried out that depends on the dialect alone: line directives, then
the placeholder, then the comparisons that have become known. -/
def Directive.resolveAll (d : Dialect) (placeholder : Text) (t : Text) : Except Fault Text :=
  (Directive.resolve d t).map fun t => Comparison.fold (Placeholder.substitute placeholder d t)

end Multidialect
