import Multidialect.Text.Basic

/-! # Places in a manifest

An error points at the name or value that it is about, where that can be found in the manifest's
text: first as a quoted value, then as a part of a table's header, then as a key. Places are counted
in bytes.

* `Span.find?`: the place of a name or value.
-/

namespace Multidialect

open Text

/-- The number of bytes of a text. -/
def Text.byteLength (t : Text) : Nat := t.foldl (fun n c => n + c.utf8Size) 0

/-- A stretch of a text, in bytes. -/
structure Span where
  offset : Nat
  length : Nat
  deriving DecidableEq, Repr

namespace Span

/-- The text in front of the first occurrence of `part`. -/
def textBefore? (part t : Text) : Option Text := (splitOnce? part t).map Prod.fst

/-- The place of `needle` between two characters. -/
def between? (opening closing : Char) (needle t : Text) : Option Span :=
  (textBefore? (opening :: needle ++ [closing]) t).map fun before =>
    ⟨byteLength before + 1, byteLength needle⟩

/-- Whether a key can start behind a text. -/
def keyCanFollow (before : Text) : Bool :=
  before.getLast?.all fun c => isBlank c || c == '\x7b' || c == ','

/-- The place of `needle` in front of `ending`, if its first occurrence there can be a key. -/
def key? (needle ending t : Text) : Option Span :=
  match textBefore? (needle ++ ending) t with
  | some before =>
    if keyCanFollow before then some ⟨byteLength before, byteLength needle⟩ else none
  | none => none

/-- The place of a name or value in a manifest. -/
def find? (needle t : Text) : Option Span :=
  if needle = [] then none
  else
    (between? '"' '"' needle t).or <|
      (between? '\'' '\'' needle t).or <|
        (between? '.' ']' needle t).or <|
          (between? '.' '.' needle t).or <|
            (key? needle [' ', '='] t).or (key? needle ['='] t)

end Span

end Multidialect
