import Multidialect.Toml.Value

/-! # TOML scalars

The values that a document writes without quotes: integers, fractions, truth values and moments in
time. `scalar?` reads the characters of one such value.
-/

namespace Multidialect.Toml

open Text

/-- The number that a digit of a base up to sixteen stands for. -/
def digit? (base : Nat) (c : Char) : Option Nat :=
  let n :=
    if '0' ≤ c ∧ c ≤ '9' then c.toNat - '0'.toNat
    else if 'a' ≤ c ∧ c ≤ 'f' then c.toNat - 'a'.toNat + 10
    else if 'A' ≤ c ∧ c ≤ 'F' then c.toNat - 'A'.toNat + 10
    else 16
  if n < base then some n else none

/-- The number that digits spell behind the number `n`. -/
def digitsFrom? (base n : Nat) : Text → Option Nat
  | [] => some n
  | '_' :: c :: cs => do digitsFrom? base (n * base + (← digit? base c)) cs
  | c :: cs => do digitsFrom? base (n * base + (← digit? base c)) cs

/-- The number that digits spell; a `_` may stand between two digits. -/
def digits? (base : Nat) : Text → Option Nat
  | [] => none
  | c :: cs => do digitsFrom? base (← digit? base c) cs

/-- The number that decimal digits without a leading zero spell. -/
def natural? : Text → Option Nat
  | ['0'] => some 0
  | '0' :: _ => none
  | t => digits? 10 t

/-- The sign at the front of a number, and what follows it. -/
def splitSign : Text → Bool × Text
  | '-' :: t => (true, t)
  | '+' :: t => (false, t)
  | t => (false, t)

/-- The integer that a text spells. -/
def integer? (t : Text) : Option Int :=
  match t with
  | '0' :: 'x' :: t => (digits? 16 t).map Int.ofNat
  | '0' :: 'o' :: t => (digits? 8 t).map Int.ofNat
  | '0' :: 'b' :: t => (digits? 2 t).map Int.ofNat
  | t =>
    let (negative, t) := splitSign t
    (natural? t).map fun n => if negative then -(Int.ofNat n) else Int.ofNat n

/-- Whether a text is an exponent behind its `e`. -/
def isExponent (t : Text) : Bool := (digits? 10 (splitSign t).2).isSome

/-- Whether a text is a number with a fraction or an exponent. -/
def isFraction (t : Text) : Bool :=
  let t := (splitSign t).2
  if t = "inf".toList ∨ t = "nan".toList then true
  else
    let whole := t.takeWhile fun c => c.isDigit || c == '_'
    (natural? whole).isSome &&
      match t.drop whole.length with
      | '.' :: rest =>
        let part := rest.takeWhile fun c => c.isDigit || c == '_'
        (digits? 10 part).isSome &&
          match rest.drop part.length with
          | [] => true
          | e :: rest => (e == 'e' || e == 'E') && isExponent rest
      | e :: rest => (e == 'e' || e == 'E') && isExponent rest
      | [] => false

/-- A number of exactly `n` decimal digits at the front of a text, and what follows it. -/
def fixed? (n : Nat) (t : Text) : Option (Nat × Text) :=
  let front := t.take n
  if front.length = n ∧ front.all Char.isDigit then
    (digits? 10 front).map fun value => (value, t.drop n)
  else none

/-- The number of days of a month. -/
def daysIn (year month : Nat) : Nat :=
  if month = 2 then if year % 4 = 0 ∧ (year % 100 ≠ 0 ∨ year % 400 = 0) then 29 else 28
  else if month = 4 ∨ month = 6 ∨ month = 9 ∨ month = 11 then 30
  else 31

/-- What follows a date at the front of a text. -/
def afterDate? (t : Text) : Option Text := do
  let (year, t) ← fixed? 4 t
  let (month, t) ← fixed? 2 (← stripStart? ['-'] t)
  let (day, t) ← fixed? 2 (← stripStart? ['-'] t)
  if 1 ≤ month ∧ month ≤ 12 ∧ 1 ≤ day ∧ day ≤ daysIn year month then some t else none

/-- What follows the seconds that may stand behind hours and minutes. -/
def afterSeconds? : Text → Option Text
  | ':' :: t => do
    let (second, t) ← fixed? 2 t
    if 60 < second then none
    else
      match t with
      | '.' :: t => if t.head?.any Char.isDigit then some (t.dropWhile Char.isDigit) else none
      | t => some t
  | t => some t

/-- What follows a time of day at the front of a text. -/
def afterTime? (t : Text) : Option Text := do
  let (hour, t) ← fixed? 2 t
  let (minute, t) ← fixed? 2 (← stripStart? [':'] t)
  if hour ≤ 23 ∧ minute ≤ 59 then afterSeconds? t else none

/-- Whether a text is empty or an offset from universal time. -/
def isOffset : Text → Bool
  | [] => true
  | ['Z'] => true
  | ['z'] => true
  | c :: t =>
    (c == '+' || c == '-') &&
      match fixed? 2 t with
      | some (hour, ':' :: t) =>
        match fixed? 2 t with
        | some (minute, []) => hour ≤ 23 && minute ≤ 59
        | _ => false
      | _ => false

/-- Whether a text is a date, a time of day, or both. -/
def isMoment (t : Text) : Bool :=
  match afterDate? t with
  | some [] => true
  | some (c :: rest) =>
    (c == 'T' || c == 't' || c == ' ') && (afterTime? rest).any isOffset
  | none => afterTime? t == some []

/-- The value that is written without quotes as a text. -/
def scalar? (t : Text) : Option Value :=
  if t = "true".toList then some (.boolean true)
  else if t = "false".toList then some (.boolean false)
  else
    match integer? t with
    | some n => some (.integer n)
    | none =>
      if isFraction t then some (.fraction t) else if isMoment t then some (.moment t) else none

/-- A character of a value without quotes. -/
def isScalarChar (c : Char) : Bool :=
  c.isAlphanum || c == '+' || c == '-' || c == '_' || c == '.' || c == ':'

/-- The value without quotes at the front of a text, and what follows it. A date and a time of day
may be parted by a space. -/
def scalarAt? (t : Text) : Option (Value × Text) :=
  let first := t.takeWhile isScalarChar
  let rest := t.dropWhile isScalarChar
  let (written, rest) :=
    match afterDate? first, rest with
    | some [], ' ' :: c :: more =>
      if c.isDigit then
        (first ++ ' ' :: (c :: more).takeWhile isScalarChar, (c :: more).dropWhile isScalarChar)
      else (first, rest)
    | _, _ => (first, rest)
  (scalar? written).map fun v => (v, rest)

end Multidialect.Toml
