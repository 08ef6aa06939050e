import Multidialect.Unicode.Classes

/-! # Text

A text is the list of its characters. This module holds the cuts that every rule of the library is
made of: trimming, taking a text off the front or the back, and cutting at the first occurrence.

* `splitOnce?_append`: cutting loses nothing but the separator.
* `trim` removes white space (`isBlank`) from both ends.
-/

namespace Multidialect

/-- The characters of a text, in order. -/
abbrev Text := List Char

namespace Text

/-- The text without the white space that it starts with. -/
def trimStart (t : Text) : Text := t.dropWhile isBlank

/-- The text without the white space that it ends with. -/
def trimEnd (t : Text) : Text := (t.reverse.dropWhile isBlank).reverse

/-- The text without the white space at either end. -/
def trim (t : Text) : Text := trimEnd (trimStart t)

/-- Whether a text is empty or white space throughout. -/
def isBlankText (t : Text) : Bool := t.all isBlank

/-- What follows `start` in a text that begins with it. -/
def stripStart? (start t : Text) : Option Text := start.isPrefixOf? t

/-- What precedes `ending` in a text that ends with it. -/
def stripEnd? (ending t : Text) : Option Text :=
  (ending.reverse.isPrefixOf? t.reverse).map List.reverse

/-- The parts before and after the first occurrence of `sep`. -/
def splitOnce? (sep : Text) : Text → Option (Text × Text)
  | [] => if sep = [] then some ([], []) else none
  | c :: cs =>
    match sep.isPrefixOf? (c :: cs) with
    | some rest => some ([], rest)
    | none => (splitOnce? sep cs).map fun (before, after) => (c :: before, after)

/-- The parts before and after the last occurrence of the character `sep`. -/
def splitLast? (sep : Char) (t : Text) : Option (Text × Text) :=
  match t.reverse.dropWhile (· != sep) with
  | [] => none
  | _ :: before => some (before.reverse, (t.reverse.takeWhile (· != sep)).reverse)

/-- Whether `part` occurs in a text. -/
def contains (part t : Text) : Bool := (splitOnce? part t).isSome

/-- The texts one after another with `sep` between them. -/
def join (sep : Text) (ts : List Text) : Text := List.intercalate sep ts

/-- A part of a name in a type-parameter list: a letter, a number, `_` or `$`. -/
def isNameChar (c : Char) : Bool := isAlphanumeric c || c == '_' || c == '$'

/-- A part of a tag or of a region key: a letter, a number or `_`. -/
def isTagChar (c : Char) : Bool := isAlphanumeric c || c == '_'

/-! ## Lemmas -/

theorem isPrefixOf?_eq_some {p t r : Text} : p.isPrefixOf? t = some r ↔ t = p ++ r := by
  induction p generalizing t with
  | nil =>
    change some t = some r ↔ t = r
    simp
  | cons a p ih =>
    cases t with
    | nil =>
      change none = some r ↔ [] = a :: p ++ r
      simp
    | cons b t =>
      change (if a == b then p.isPrefixOf? t else none) = some r ↔ b :: t = a :: p ++ r
      by_cases h : a = b
      · simp [h, ih]
      · simp [h, Ne.symm h]

theorem splitOnce?_append {sep t before after : Text}
    (h : splitOnce? sep t = some (before, after)) : t = before ++ sep ++ after := by
  induction t generalizing before with
  | nil =>
    simp only [splitOnce?] at h
    split at h
    · simp_all
    · simp at h
  | cons c cs ih =>
    simp only [splitOnce?] at h
    split at h
    · next rest hr =>
      obtain ⟨rfl, rfl⟩ : [] = before ∧ rest = after := by simpa using h
      simpa using isPrefixOf?_eq_some.1 hr
    · obtain ⟨⟨b, a⟩, hs, he⟩ := Option.map_eq_some_iff.1 h
      obtain ⟨rfl, rfl⟩ : c :: b = before ∧ a = after := by simpa using he
      simp [ih hs]

end Text

end Multidialect
