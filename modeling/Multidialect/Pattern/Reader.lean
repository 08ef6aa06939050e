import Multidialect.Pattern.Basic

/-! # Reading patterns

The notation for search patterns: groups, alternatives, repetitions, sets in brackets, escapes, and
flags that hold to the end of the group in which they are set. There are no look-around conditions
and no references to earlier groups.

* `Pattern.read?`: the pattern that a text denotes, or nothing if it denotes none.

Which patterns are accepted is an approximation of what a search engine accepts: their size is limited
by the steps that they spell out (`Pattern.sizeLimit`) and not by memory, only some properties of
characters are known by name (`CharSet.property?`), and groups may be nested to any depth. No theorem
depends on which patterns are accepted.
-/

namespace Multidialect.Pattern

open Text

/-- What flags change about the reading of a pattern. -/
structure Flags where
  ignoreCase : Bool
  multiLine : Bool
  dotAll : Bool
  swapGreed : Bool
  unicode : Bool
  anyNewline : Bool
  spaced : Bool
  deriving DecidableEq, Repr

/-- The flags at the start of a pattern. -/
def Flags.initial : Flags := ⟨false, false, false, false, true, false, false⟩

/-- The groups seen so far: the number of the next one, and the names given. -/
structure Groups where
  next : Nat
  names : List (String × Nat)

/-- What follows white space and comments, where a pattern is written with spaces. -/
def skipSpaces (flags : Flags) : Nat → Text → Text
  | 0, t => t
  | fuel + 1, t =>
    if flags.spaced then
      match t with
      | '#' :: rest => skipSpaces flags fuel (rest.dropWhile (· != '\n'))
      | c :: rest => if isBlank c then skipSpaces flags fuel rest else t
      | [] => []
    else t

/-- What follows white space and comments. -/
def skip (flags : Flags) (t : Text) : Text := skipSpaces flags (t.length + 1) t

/-- A set closed under case, where case is ignored. -/
def withCase (flags : Flags) (s : CharSet) : CharSet :=
  if flags.ignoreCase then .anyCase s else s

/-- The pattern for one character. -/
def charPattern (flags : Flags) (c : Char) : Pattern :=
  .char (withCase flags (.singleton c))

/-! ## Numbers -/

/-- The number that decimal digits spell. -/
def decimal? (t : Text) : Option Nat :=
  if t ≠ [] ∧ t.all Char.isDigit then some (t.foldl (fun n c => n * 10 + (c.toNat - '0'.toNat)) 0)
  else none

/-- The number that a hexadecimal digit stands for. -/
def hexDigit? (c : Char) : Option Nat :=
  if c.isDigit then some (c.toNat - '0'.toNat)
  else if 'a' ≤ c ∧ c ≤ 'f' then some (c.toNat - 'a'.toNat + 10)
  else if 'A' ≤ c ∧ c ≤ 'F' then some (c.toNat - 'A'.toNat + 10)
  else none

/-- The character with the number that hexadecimal digits spell. -/
def hexCharacter? (t : Text) : Option Char := do
  let ds ← t.mapM hexDigit?
  let n := ds.foldl (fun n d => n * 16 + d) 0
  if t ≠ [] ∧ n.isValidChar then some (Char.ofNat n) else none

/-- The number of repetitions at the front of a text, and what follows it. -/
def count? (t : Text) : Option (Nat × Text) := do
  let t := trimStart t
  let n ← decimal? (t.takeWhile Char.isDigit)
  if n < UInt32.size then some (n, trimStart (t.dropWhile Char.isDigit)) else none

/-- The bounds of a repetition behind the opening brace, and what follows the closing one. -/
def bounds? (flags : Flags) (t : Text) : Option (Nat × Option Nat × Text) := do
  let (least, rest) ← count? (skip flags t)
  match rest with
  | '\x7d' :: rest => some (least, some least, rest)
  | ',' :: rest =>
    match skip flags rest with
    | '\x7d' :: rest => some (least, none, rest)
    | rest =>
      let (most, rest) ← count? rest
      let rest ← stripStart? ['\x7d'] rest
      if least ≤ most then some (least, some most, rest) else none
  | _ => none

/-! ## Escapes -/

/-- What an escape or a plain character stands for. -/
inductive Atom where
  | literal (c : Char)
  | set (s : CharSet)
  | condition (ascii : Bool) (a : Assertion)

/-- A character that has a meaning of its own in some place of a pattern. -/
def isMeta (c : Char) : Bool := "\\.+*?()|[]\x7b\x7d^$#&-~".toList.contains c

/-- Whether a character stands for itself behind a backslash. -/
def isEscapable (c : Char) : Bool :=
  isMeta c || (c.toNat < 0x80 && !c.isAlphanum && c != '<' && c != '>')

/-- A shorthand class, negated if its letter is a capital. Outside Unicode the negated classes have
no place in a text. -/
def shorthand? (flags : Flags) (c : Char) : Option CharSet :=
  let (plain, ascii) :=
    match c.toLower with
    | 'd' => (CharSet.digit, "digit")
    | 's' => (CharSet.space, "space")
    | _ => (CharSet.word, "word")
  if flags.unicode then some (if c.isUpper then .complement plain else plain)
  else if c.isUpper then none
  else CharSet.ascii? ascii

/-- The set of a Unicode property, behind `\p` or `\P`, and what follows it. -/
def property? (flags : Flags) (negated : Bool) (t : Text) : Option (CharSet × Text) := do
  if !flags.unicode then none
  else
    let (name, rest) ←
      match skip flags t with
      | '\x7b' :: rest =>
        let name := rest.takeWhile (· != '\x7d')
        (stripStart? ['\x7d'] (rest.drop name.length)).map fun rest => (name, rest)
      | c :: rest => if c = '\\' then none else some ([c], rest)
      | [] => none
    let (found, inverse) ←
      match splitOnce? ['!', '='] name with
      | some (p, v) =>
        (CharSet.propertyValue? (String.ofList p) (String.ofList v)).map fun s => (s, true)
      | none =>
        match (splitOnce? [':'] name).or (splitOnce? ['='] name) with
        | some (p, v) =>
          (CharSet.propertyValue? (String.ofList p) (String.ofList v)).map fun s => (s, false)
        | none =>
          if name.length = 1 ∧ t.head? ≠ some '\x7b' then
            (CharSet.category? (CharSet.looseName (String.ofList name))).map fun s => (s, false)
          else (CharSet.property? (String.ofList name)).map fun s => (s, false)
    let s := withCase flags found
    some (if negated != inverse then .complement s else s, rest)

/-- The character written in hexadecimal behind `\x`, `\u` or `\U`, and what follows it. -/
def hexEscape? (flags : Flags) (letter : Char) (t : Text) : Option (Char × Text) :=
  match skip flags t with
  | '\x7b' :: rest => do
    let digits := rest.takeWhile (· != '\x7d')
    let rest ← stripStart? ['\x7d'] (rest.drop digits.length)
    let c ← hexCharacter? (digits.filter fun c => !(flags.spaced && isBlank c))
    some (c, rest)
  | t => do
    let n := if letter = 'x' then 2 else if letter = 'u' then 4 else 8
    let digits := t.take n
    if digits.length = n then
      let c ← hexCharacter? digits
      if !flags.unicode ∧ letter = 'x' ∧ 0x80 ≤ c.toNat then none else some (c, t.drop n)
    else none

/-- The condition behind `\b`, which may be spelled out in braces, and what follows it. -/
def boundary? (flags : Flags) (t : Text) : Option (Assertion × Text) :=
  let isNameChar (c : Char) : Bool := c.isAlpha || c == '-'
  match t with
  | '\x7b' :: rest =>
    match skip flags rest with
    | [] => none
    | c :: more =>
      if isNameChar c then do
        let name := (c :: more).takeWhile isNameChar
        let rest ← stripStart? ['\x7d'] (skip flags ((c :: more).drop name.length))
        match String.ofList name with
        | "start" => some (.wordStart, rest)
        | "end" => some (.wordEnd, rest)
        | "start-half" => some (.wordStartHalf, rest)
        | "end-half" => some (.wordEndHalf, rest)
        | _ => none
      else some (.wordBoundary, t)
  | t => some (.wordBoundary, t)

/-- What an escape stands for, behind its backslash, and what follows it. -/
def escape? (flags : Flags) : Text → Option (Atom × Text)
  | [] => none
  | c :: rest =>
    if "dswDSW".toList.contains c then (shorthand? flags c).map fun s => (.set s, rest)
    else if c = 'p' ∨ c = 'P' then
      (property? flags (c == 'P') rest).map fun (s, rest) => (.set s, rest)
    else if c = 'x' ∨ c = 'u' ∨ c = 'U' then
      (hexEscape? flags c rest).map fun (c, rest) => (.literal c, rest)
    else if isEscapable c then some (.literal c, rest)
    else
      match c with
      | 'a' => some (.literal '\x07', rest)
      | 'f' => some (.literal '\x0c', rest)
      | 't' => some (.literal '\t', rest)
      | 'n' => some (.literal '\n', rest)
      | 'r' => some (.literal '\r', rest)
      | 'v' => some (.literal '\x0b', rest)
      | 'A' => some (.condition false .textStart, rest)
      | 'z' => some (.condition false .textEnd, rest)
      | 'b' => (boundary? flags rest).map fun (a, rest) => (.condition (!flags.unicode) a, rest)
      | 'B' => some (.condition (!flags.unicode) .notWordBoundary, rest)
      | '<' => some (.condition (!flags.unicode) .wordStart, rest)
      | '>' => some (.condition (!flags.unicode) .wordEnd, rest)
      | _ => none

/-! ## Sets in brackets -/

/-- The class of ASCII characters at the front of a text, if there is one, and what follows it. -/
def asciiClass? (flags : Flags) (t : Text) : Option (CharSet × Text) := do
  let rest ← stripStart? ['[', ':'] t
  let (negated, rest) :=
    match rest with
    | '^' :: rest => (true, rest)
    | rest => (false, rest)
  let name := rest.takeWhile (· != ':')
  let rest ← stripStart? [':', ']'] (rest.drop name.length)
  let s ← CharSet.ascii? (String.ofList name)
  some (if negated then .complement (withCase flags s) else withCase flags s, rest)

/-- The set operation at the front of a text, and what follows it. -/
def setOperator? : Text → Option ((CharSet → CharSet → CharSet) × Text)
  | '&' :: '&' :: rest => some (.inter, rest)
  | '-' :: '-' :: rest => some (.diff, rest)
  | '~' :: '~' :: rest => some (.symmDiff, rest)
  | _ => none

/-- An element of a set at the front of a text, and what follows it. -/
def setAtom? (flags : Flags) : Text → Option (Atom × Text)
  | [] => none
  | '\\' :: rest => escape? flags rest
  | c :: rest => some (.literal c, rest)

/-- The character or the range of characters at the front of a text, and what follows it. -/
def setRange? (flags : Flags) (t : Text) : Option (CharSet × Text) := do
  let (first, rest) ← setAtom? flags t
  let rest := skip flags rest
  let single : Option (CharSet × Text) :=
    match first with
    | .literal c => if !flags.unicode ∧ 0x80 ≤ c.toNat then none else some (.singleton c, rest)
    | .set s => some (s, rest)
    | .condition .. => none
  match rest with
  | '-' :: more =>
    match skip flags more with
    | [] => none
    | c :: more =>
      if c = ']' ∨ c = '-' then single
      else
        let (second, rest) ← setAtom? flags (c :: more)
        match first, second with
        | .literal lo, .literal hi =>
          if lo ≤ hi ∧ (flags.unicode ∨ hi.toNat < 0x80) then some (.range lo hi, rest) else none
        | _, _ => none
  | [] => none
  | _ => single

/-- The hyphens, and the closing bracket, that stand for themselves at the front of a set. -/
def setFront (flags : Flags) : Nat → Bool → CharSet → Text → CharSet × Text
  | 0, _, s, t => (s, t)
  | fuel + 1, first, s, t =>
    match t with
    | '-' :: rest => setFront flags fuel false (.union s (.singleton '-')) (skip flags rest)
    | ']' :: rest => if first then (.union s (.singleton ']'), skip flags rest) else (s, t)
    | _ => (s, t)

/-- The set behind an opening bracket, and what follows the closing one. Here `left` is what stands
in front of the last operator, which waits for its right side, and `s` holds the elements since. -/
def setBody? (flags : Flags) :
    Nat → Option (CharSet × (CharSet → CharSet → CharSet)) → CharSet → Text →
      Option (CharSet × Text)
  | 0, _, _, _ => none
  | fuel + 1, left, s, t =>
    let applied : CharSet :=
      match left with
      | none => s
      | some (l, op) => op (withCase flags l) (withCase flags s)
    match skip flags t with
    | [] => none
    | ']' :: rest => some (applied, rest)
    | '[' :: rest =>
      match asciiClass? flags ('[' :: rest) with
      | some (c, rest) => setBody? flags fuel left (.union s c) rest
      | none => do
        let rest := skip flags rest
        let negated := rest.head? = some '^'
        let rest := if negated then skip flags rest.tail else rest
        let (front, rest) := setFront flags (rest.length + 1) true .none rest
        let (inner, rest) ← setBody? flags fuel none front rest
        let inner := withCase flags inner
        setBody? flags fuel left (.union s (if negated then .complement inner else inner)) rest
    | t =>
      match setOperator? t with
      | some (op, rest) => setBody? flags fuel (some (applied, op)) .none rest
      | none => do
        let (c, rest) ← setRange? flags t
        setBody? flags fuel left (.union s c) rest

/-- The set behind an opening bracket, and what follows the closing one. Outside Unicode a negated
set has no place in a text. -/
def set? (flags : Flags) (t : Text) : Option (CharSet × Text) := do
  let rest := skip flags t
  let negated := rest.head? = some '^'
  let rest := if negated then skip flags rest.tail else rest
  let (front, rest) := setFront flags (rest.length + 1) true .none rest
  let (s, rest) ← setBody? flags (rest.length + 1) none front rest
  let s := withCase flags s
  if negated then if flags.unicode then some (.complement s, rest) else none else some (s, rest)

/-! ## Groups -/

/-- The flags behind `(?`, up to the character that ends them. -/
def flags? : Nat → (negated : Bool) → (seen : List Char) → (last : Option Char) → Flags → Text →
    Option (Flags × List Char × Text)
  | 0, _, _, _, _, _ => none
  | fuel + 1, negated, seen, last, flags, t =>
    match t with
    | [] => none
    | c :: rest =>
      if c = ':' ∨ c = ')' then
        if last = some '-' then none else some (flags, seen, t)
      else if seen.contains c then none
      else
        let next (flags : Flags) := flags? fuel negated (c :: seen) (some c) flags rest
        match c with
        | '-' => flags? fuel true (c :: seen) (some c) flags rest
        | 'i' => next { flags with ignoreCase := !negated }
        | 'm' => next { flags with multiLine := !negated }
        | 's' => next { flags with dotAll := !negated }
        | 'U' => next { flags with swapGreed := !negated }
        | 'u' => next { flags with unicode := !negated }
        | 'R' => next { flags with anyNewline := !negated }
        | 'x' => next { flags with spaced := !negated }
        | _ => none

/-- The name of a group behind `<`, and what follows `>`. -/
def groupName? (t : Text) : Option (String × Text) := do
  let name := t.takeWhile (· != '>')
  let rest ← stripStart? ['>'] (t.drop name.length)
  match name with
  | [] => none
  | c :: cs =>
    if (c == '_' || Unicode.isAlphabetic c) &&
        cs.all fun c => isAlphanumeric c || c == '_' || c == '.' || c == '[' || c == ']' then
      some (String.ofList name, rest)
    else none

/-- How a group begins. -/
inductive Opening where
  /-- Flags for the rest of the enclosing group. -/
  | set (flags : Flags)
  /-- A group that is not remembered. -/
  | plain (flags : Flags)
  /-- A group that is remembered under the next number. -/
  | capture (groups : Groups)

/-- The beginning of a group behind its bracket, and what follows it. -/
def opening? (flags : Flags) (groups : Groups) (t : Text) : Option (Opening × Text) :=
  let named (rest : Text) : Option (Opening × Text) := do
    let (name, rest) ← groupName? rest
    if (groups.names.lookup name).isSome then none
    else some (.capture ⟨groups.next + 1, (name, groups.next) :: groups.names⟩, rest)
  match skip flags t with
  | '?' :: 'P' :: '<' :: rest => named rest
  | '?' :: '<' :: rest =>
    if rest.head? = some '=' ∨ rest.head? = some '!' then none else named rest
  | '?' :: rest => do
    let (inner, seen, rest) ← flags? (rest.length + 1) false [] none flags rest
    match rest with
    | ')' :: rest => if seen = [] then none else some (.set inner, rest)
    | _ :: rest => some (.plain inner, rest)
    | [] => none
  | rest => some (.capture ⟨groups.next + 1, groups.names⟩, rest)

/-! ## Patterns -/

/-- A part of a pattern, and whether it can be repeated. -/
structure Part where
  pattern : Pattern
  repeatable : Bool

/-- What has been read of a group: the parts of the current alternative, last one first, and the
alternatives before it, last one first. -/
structure Unfinished where
  parts : List Part
  alternatives : List Pattern

/-- The pattern that has been read. -/
def Unfinished.pattern (p : Unfinished) : Pattern :=
  alternateAll ((concatAll (p.parts.reverse.map (·.pattern)) :: p.alternatives).reverse)

/-- The unfinished pattern with one more part. -/
def Unfinished.add (p : Unfinished) (pattern : Pattern) : Unfinished :=
  { p with parts := ⟨pattern, true⟩ :: p.parts }

/-- The unfinished pattern with its last part repeated, and what follows the mark of preference. -/
def Unfinished.repeat? (flags : Flags) (p : Unfinished) (least : Nat) (most : Option Nat)
    (t : Text) : Option (Unfinished × Text) :=
  match p.parts with
  | ⟨pattern, true⟩ :: parts =>
    let (lazy, rest) :=
      match skip flags t with
      | '?' :: rest => (true, rest)
      | _ => (false, t)
    let greedy := lazy == flags.swapGreed
    some ({ p with parts := ⟨.repetition least most greedy pattern, true⟩ :: parts }, rest)
  | _ => none

/-- The pattern of what stands outside brackets and groups at the front of a text, and what follows
it. -/
def single? (flags : Flags) : Text → Option (Pattern × Text)
  | [] => none
  | '\\' :: rest => do
    let (atom, rest) ← escape? flags rest
    match atom with
    | .literal c => some (charPattern flags c, rest)
    | .set s => some (.char s, rest)
    | .condition ascii a => some (.assert ascii a, rest)
  | '.' :: rest =>
    if !flags.unicode then none
    else if flags.dotAll then some (.char .all, rest)
    else if flags.anyNewline then
      some (.char (.complement (.union (.singleton '\n') (.singleton '\r'))), rest)
    else some (.char (.complement (.singleton '\n')), rest)
  | '^' :: rest =>
    let a : Assertion :=
      if !flags.multiLine then .textStart
      else if flags.anyNewline then .anyLineStart
      else .lineStart
    some (.assert false a, rest)
  | '$' :: rest =>
    let a : Assertion :=
      if !flags.multiLine then .textEnd else if flags.anyNewline then .anyLineEnd else .lineEnd
    some (.assert false a, rest)
  | c :: rest => some (charPattern flags c, rest)

/-- The pattern of a group from here on, the groups seen, and what follows it: the closing bracket,
or the end of the text. -/
def group? : Nat → Flags → Groups → Unfinished → Text → Option (Pattern × Groups × Text)
  | 0, _, _, _, _ => none
  | fuel + 1, flags, groups, p, t =>
    match skip flags t with
    | [] => some (p.pattern, groups, [])
    | ')' :: rest => some (p.pattern, groups, ')' :: rest)
    | '|' :: rest =>
      group? fuel flags groups
        ⟨[], concatAll (p.parts.reverse.map (·.pattern)) :: p.alternatives⟩ rest
    | '(' :: rest => do
      let (opening, rest) ← opening? flags groups rest
      match opening with
      | .set flags =>
        group? fuel flags groups { p with parts := ⟨.empty, false⟩ :: p.parts } rest
      | .plain inner =>
        let (body, groups, rest) ← group? fuel inner groups ⟨[], []⟩ rest
        let rest ← stripStart? [')'] rest
        group? fuel flags groups (p.add body) rest
      | .capture opened =>
        let (body, closed, rest) ← group? fuel flags opened ⟨[], []⟩ rest
        let rest ← stripStart? [')'] rest
        group? fuel flags closed (p.add (.capture groups.next body)) rest
    | '[' :: rest => do
      let (s, rest) ← set? flags rest
      group? fuel flags groups (p.add (.char s)) rest
    | '?' :: rest => do
      let (p, rest) ← p.repeat? flags 0 (some 1) rest
      group? fuel flags groups p rest
    | '*' :: rest => do
      let (p, rest) ← p.repeat? flags 0 none rest
      group? fuel flags groups p rest
    | '+' :: rest => do
      let (p, rest) ← p.repeat? flags 1 none rest
      group? fuel flags groups p rest
    | '\x7b' :: rest => do
      let (least, most, rest) ← bounds? flags rest
      let (p, rest) ← p.repeat? flags least most rest
      group? fuel flags groups p rest
    | t => do
      let (pattern, rest) ← single? flags t
      group? fuel flags groups (p.add pattern) rest

/-- The number of steps that a pattern spells out, repetitions multiplied out. -/
def size : Pattern → Nat
  | .empty => 0
  | .char _ => 1
  | .assert .. => 1
  | .capture _ p => p.size + 2
  | .concat p q => p.size + q.size
  | .alternate p q => p.size + q.size + 1
  | .repetition least most _ p => (max least (max 1 (most.getD 0))) * (p.size + 1)

/-- The most steps that a pattern may spell out. -/
def sizeLimit : Nat := 100000

/-- The pattern that a text denotes, unless it denotes none or is too large to be searched for. -/
def read? (text : String) : Option SearchPattern := do
  let t := text.toList
  let (pattern, groups, rest) ← group? (t.length + 1) .initial ⟨1, []⟩ ⟨[], []⟩ t
  if rest = [] ∧ pattern.size ≤ sizeLimit then some ⟨text, pattern, groups.next, groups.names⟩
  else none

end Multidialect.Pattern
