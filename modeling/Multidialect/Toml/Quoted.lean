import Multidialect.Toml.Scalar

/-! # TOML strings

The four ways to write a string: between quotes, where a backslash escapes, or between apostrophes,
where nothing does; on one line, or on several between three marks. Each reader starts behind the
opening mark and answers with the characters and with what follows the closing mark.
-/

namespace Multidialect.Toml

open Text

/-- Whether a character may stand in a string or a comment. -/
def isPrintable (c : Char) : Bool := c == '\t' || (0x20 ≤ c.toNat && c.toNat ≠ 0x7F)

/-- The character of a number, unless there is none. -/
def character? (n : Nat) : Option Char :=
  if n.isValidChar then some (Char.ofNat n) else none

/-- The character written as `n` hexadecimal digits at the front of a text, and what follows it. -/
def hexadecimal? (n : Nat) (t : Text) : Option (Char × Text) := do
  let front := t.take n
  if front.length ≠ n ∨ front.contains '_' then none
  else
    let c ← character? (← digits? 16 front)
    some (c, t.drop n)

/-- The character that an escape stands for, and what follows it, behind the backslash. -/
def escape? : Text → Option (Char × Text)
  | 'b' :: t => some ('\x08', t)
  | 't' :: t => some ('\t', t)
  | 'n' :: t => some ('\n', t)
  | 'f' :: t => some ('\x0c', t)
  | 'r' :: t => some ('\r', t)
  | 'e' :: t => some ('\x1b', t)
  | '"' :: t => some ('"', t)
  | '\\' :: t => some ('\\', t)
  | 'x' :: t => hexadecimal? 2 t
  | 'u' :: t => hexadecimal? 4 t
  | 'U' :: t => hexadecimal? 8 t
  | _ => none

/-- A string on one line between quotes. -/
def basic? : Nat → Text → Option (Text × Text)
  | 0, _ => none
  | fuel + 1, t =>
    match t with
    | [] => none
    | '"' :: rest => some ([], rest)
    | '\\' :: rest => do
      let (c, rest) ← escape? rest
      let (s, rest) ← basic? fuel rest
      some (c :: s, rest)
    | c :: rest =>
      if isPrintable c then (basic? fuel rest).map fun (s, rest) => (c :: s, rest) else none

/-- A string on one line between apostrophes. -/
def literal? : Text → Option (Text × Text)
  | [] => none
  | c :: rest =>
    if c = '\'' then some ([], rest)
    else if isPrintable c then (literal? rest).map fun (s, rest) => (c :: s, rest)
    else none

/-- The text without the line break that it starts with. -/
def dropNewline : Text → Text
  | '\n' :: t => t
  | '\r' :: '\n' :: t => t
  | t => t

/-- What remains of a text behind a backslash that ends a line: the white space up to the next
visible character is skipped, and at least one line must end. -/
def afterContinuation? (t : Text) : Option Text :=
  match dropWhileBlank t with
  | '\n' :: rest => some (skipLines ('\n' :: rest))
  | '\r' :: '\n' :: rest => some (skipLines ('\r' :: '\n' :: rest))
  | _ => none
where
  dropWhileBlank (t : Text) : Text := t.dropWhile fun c => c == ' ' || c == '\t'
  skipLines (t : Text) : Text :=
    t.dropWhile fun c => c == ' ' || c == '\t' || c == '\n' || c == '\r'

/-- What the marks at the front of a text close: three of them end a string of several lines, and up
to two more belong to it. -/
def closing? (mark : Char) (t : Text) : Option (Text × Text) :=
  let marks := (t.takeWhile (· == mark)).length
  if marks < 3 then none
  else
    let extra := min marks 5 - 3
    some (List.replicate extra mark, t.drop (extra + 3))

/-- A string on several lines. Backslashes escape if `escapes` says so. -/
def multiline? (mark : Char) (escapes : Bool) : Nat → Text → Option (Text × Text)
  | 0, _ => none
  | fuel + 1, t =>
    match closing? mark t with
    | some result => some result
    | none =>
      match t with
      | [] => none
      | '\r' :: '\n' :: rest =>
        (multiline? mark escapes fuel rest).map fun (s, rest) => ('\r' :: '\n' :: s, rest)
      | '\n' :: rest => (multiline? mark escapes fuel rest).map fun (s, rest) => ('\n' :: s, rest)
      | c :: rest =>
        if escapes ∧ c = '\\' then
          match afterContinuation? rest with
          | some rest => multiline? mark escapes fuel rest
          | none => do
            let (c, rest) ← escape? rest
            let (s, rest) ← multiline? mark escapes fuel rest
            some (c :: s, rest)
        else if isPrintable c then
          (multiline? mark escapes fuel rest).map fun (s, rest) => (c :: s, rest)
        else none

/-- The string on one line at the front of a text, and what follows it. -/
def lineString? (t : Text) : Option (Text × Text) :=
  match t with
  | '"' :: rest => basic? t.length rest
  | '\'' :: rest => literal? rest
  | _ => none

/-- The string at the front of a text, and what follows it. -/
def string? (t : Text) : Option (Text × Text) :=
  match t with
  | '"' :: '"' :: '"' :: rest => multiline? '"' true t.length (dropNewline rest)
  | '\'' :: '\'' :: '\'' :: rest => multiline? '\'' false t.length (dropNewline rest)
  | t => lineString? t

end Multidialect.Toml
