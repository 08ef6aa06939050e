import Multidialect.Text.Basic

/-! # Bytes as text

The text that bytes spell. A character that is broken off, or a byte that starts none, is shown as
the replacement character, so that any bytes at all can be shown.

* `Text.ofUtf8`: the text of bytes.
-/

namespace Multidialect.Text

/-- A character of which some bytes have been read: its number as far as it is known, how many bytes
are missing, and the bounds of the next one. -/
structure Begun where
  number : Nat
  missing : Nat
  low : Nat
  high : Nat
  deriving DecidableEq, Repr

/-- The character that a byte begins. The bounds leave out numbers that have a shorter spelling,
those of surrogates, and those behind the last character. -/
def begun? (b : Nat) : Option Begun :=
  if b = 0xe0 then some ⟨0, 2, 0xa0, 0xbf⟩
  else if b = 0xed then some ⟨0xd, 2, 0x80, 0x9f⟩
  else if b = 0xf0 then some ⟨0, 3, 0x90, 0xbf⟩
  else if b = 0xf4 then some ⟨4, 3, 0x80, 0x8f⟩
  else if 0xc2 ≤ b ∧ b < 0xe0 then some ⟨b - 0xc0, 1, 0x80, 0xbf⟩
  else if 0xe1 ≤ b ∧ b < 0xf0 then some ⟨b - 0xe0, 2, 0x80, 0xbf⟩
  else if 0xf1 ≤ b ∧ b < 0xf4 then some ⟨b - 0xf0, 3, 0x80, 0xbf⟩
  else none

/-- The character that stands for what is no text. -/
def replacement : Char := '\uFFFD'

/-- What a byte gives where no character has begun: a text, or the beginning of a character. -/
def ofFirst (b : Nat) : Text × Option Begun :=
  if b < 0x80 then ([Char.ofNat b], none)
  else
    match begun? b with
    | some c => ([], some c)
    | none => ([replacement], none)

/-- What a byte gives behind the beginning of a character. -/
def ofNext (c : Begun) (b : Nat) : Text × Option Begun :=
  if c.low ≤ b ∧ b ≤ c.high then
    let number := c.number * 64 + (b - 0x80)
    if c.missing = 1 then ([Char.ofNat number], none)
    else ([], some ⟨number, c.missing - 1, 0x80, 0xbf⟩)
  else
    let (t, c) := ofFirst b
    (replacement :: t, c)

/-- The text of bytes behind the beginning of a character, if there is one. -/
def ofBytes : Option Begun → List UInt8 → Text
  | none, [] => []
  | some _, [] => [replacement]
  | none, b :: bs =>
    let (t, c) := ofFirst b.toNat
    t ++ ofBytes c bs
  | some c, b :: bs =>
    let (t, c) := ofNext c b.toNat
    t ++ ofBytes c bs

/-- The text of bytes. -/
def ofUtf8 (bytes : ByteArray) : Text := ofBytes none bytes.toList

end Multidialect.Text
