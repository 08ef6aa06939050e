import Multidialect.Pattern.CharSet
import Multidialect.Text.Sites

/-! # Patterns

What a search pattern describes, once it is read. Flags have no place in it: the reader turns them
into sets, assertions and the preference of repetitions.

* `Assertion.holds`: conditions on the place between two characters.
* `Pattern`: the ways to cover characters.
-/

namespace Multidialect

open Text

/-- A condition on a place in a text. -/
inductive Assertion where
  | textStart
  | textEnd
  | lineStart
  | lineEnd
  /-- As `lineStart`, where a carriage return ends a line too. -/
  | anyLineStart
  | anyLineEnd
  | wordBoundary
  | notWordBoundary
  | wordStart
  | wordEnd
  | wordStartHalf
  | wordEndHalf
  deriving DecidableEq, Repr

/-- Whether a condition holds between what stands before a place, last character first, and what
follows it; `isWord` tells which characters belong to words. -/
def Assertion.holds (isWord : Char → Bool) (before after : Text) : Assertion → Bool :=
  let wordBefore := before.head?.any isWord
  let wordAfter := after.head?.any isWord
  fun
  | .textStart => before.isEmpty
  | .textEnd => after.isEmpty
  | .lineStart => before.isEmpty || before.head? == some '\n'
  | .lineEnd => after.isEmpty || after.head? == some '\n'
  | .anyLineStart =>
    before.isEmpty || before.head? == some '\n' ||
      (before.head? == some '\r' && after.head? != some '\n')
  | .anyLineEnd =>
    after.isEmpty || after.head? == some '\r' ||
      (after.head? == some '\n' && before.head? != some '\r')
  | .wordBoundary => wordBefore != wordAfter
  | .notWordBoundary => wordBefore == wordAfter
  | .wordStart => !wordBefore && wordAfter
  | .wordEnd => wordBefore && !wordAfter
  | .wordStartHalf => !wordBefore
  | .wordEndHalf => !wordAfter

/-- A search pattern. -/
inductive Pattern where
  | empty
  | char (s : CharSet)
  /-- A condition; with `ascii`, only ASCII characters belong to words. -/
  | assert (ascii : Bool) (a : Assertion)
  /-- A part whose match is remembered under a number. -/
  | capture (index : Nat) (p : Pattern)
  | concat (p q : Pattern)
  /-- Either of two parts, the first one by preference. -/
  | alternate (p q : Pattern)
  /-- A part several times; `greedy` prefers many times to few. -/
  | repetition (least : Nat) (most : Option Nat) (greedy : Bool) (p : Pattern)
  deriving Repr

/-- A pattern with its remembered parts: their number, the whole match included, and their names. -/
structure SearchPattern where
  written : String
  pattern : Pattern
  captures : Nat
  names : List (String × Nat)
  deriving Repr

/-- Whether a pattern can be matched without covering a character. -/
def Pattern.canBeEmpty : Pattern → Bool
  | .empty => true
  | .char _ => false
  | .assert .. => true
  | .capture _ p => p.canBeEmpty
  | .concat p q => p.canBeEmpty && q.canBeEmpty
  | .alternate p q => p.canBeEmpty || q.canBeEmpty
  | .repetition least _ _ p => least == 0 || p.canBeEmpty

/-- The parts one after another. -/
def Pattern.concatAll : List Pattern → Pattern
  | [] => .empty
  | [p] => p
  | p :: ps => .concat p (concatAll ps)

/-- Any of the parts, earlier ones by preference. -/
def Pattern.alternateAll : List Pattern → Pattern
  | [] => .empty
  | [p] => p
  | p :: ps => .alternate p (alternateAll ps)

end Multidialect
