import Multidialect.Unicode.Alphabetic
import Multidialect.Unicode.Category

/-! # Classes of characters

The four questions that the text rules ask of a character, each answered from the tables of the
standard.

* `isBlank`: the property White_Space.
* `isAlphanumeric`: letters and numbers of every kind, `²` and `Ⅷ` included.
* `isWordChar`: what counts as part of a word in a pattern: letters, marks, decimal digits,
  connectors and the two joiners, so a combining accent is one and `²` is not.
* `isIdentifierChar`: a word character or `$`.
-/

namespace Multidialect.Unicode

/-- The property White_Space. -/
def whiteSpace : Ranges := [
  (0x9, 0xD), (0x20, 0x20), (0x85, 0x85), (0xA0, 0xA0), (0x1680, 0x1680), (0x2000, 0x200A),
  (0x2028, 0x2029), (0x202F, 0x202F), (0x205F, 0x205F), (0x3000, 0x3000)]

/-- The property Join_Control. -/
def joinControl : Ranges := [(0x200C, 0x200D)]

/-- White space. -/
def isBlank (c : Char) : Bool := whiteSpace.contains c.toNat

/-- A letter. -/
def isAlphabetic (c : Char) : Bool := alphabetic.contains c.toNat

/-- A decimal digit of any script. -/
def isDecimal (c : Char) : Bool := decimalNumber.contains c.toNat

/-- A number of any kind: digit, letter number or other number. -/
def isNumeric (c : Char) : Bool :=
  decimalNumber.contains c.toNat || letterNumber.contains c.toNat || otherNumber.contains c.toNat

/-- A letter or a number. -/
def isAlphanumeric (c : Char) : Bool := isAlphabetic c || isNumeric c

/-- A combining mark. -/
def isMark (c : Char) : Bool :=
  nonspacingMark.contains c.toNat || spacingMark.contains c.toNat || enclosingMark.contains c.toNat

/-- Part of a word: letter, mark, decimal digit, connector or joiner. -/
def isWordChar (c : Char) : Bool :=
  isAlphabetic c || isDecimal c || connectorPunctuation.contains c.toNat || isMark c ||
    joinControl.contains c.toNat

/-- Part of an identifier: a word character or `$`. -/
def isIdentifierChar (c : Char) : Bool := isWordChar c || c == '$'

end Multidialect.Unicode

namespace Multidialect

export Unicode (isBlank isAlphanumeric isWordChar isIdentifierChar)

end Multidialect
