import Multidialect.Pattern.Basic

/-! # Searching for patterns

A pattern is laid out as a program of steps, and a text is run through all ways of the program at
once, most preferred way first. No two ways stand at one step at one place of the text, so the
search is bounded by the size of the program times the length of the text, and it finds the match
that trying one way after another would find.

* `Program.ofPattern`: the program of a pattern.
* `Program.run?`: the match that starts at a place.
* `SearchPattern.site`: the matches of a pattern as sites.
-/

namespace Multidialect

open Text

/-- A step of a program. -/
inductive Step where
  /-- Cover one character of a set. -/
  | char (s : CharSet) (next : Nat)
  /-- Go on if a condition holds. -/
  | assert (ascii : Bool) (a : Assertion) (next : Nat)
  /-- Remember the place. -/
  | save (slot next : Nat)
  /-- Go on in several ways, earlier ones by preference. -/
  | split (nexts : List Nat)
  /-- The pattern is matched. -/
  | accept
  deriving Repr

/-- The steps of a program. -/
abbrev Program := Array Step

namespace Program

/-- The program with a step at its end, and that step's number. -/
def emit (step : Step) (prog : Program) : Nat × Program := (prog.size, prog.push step)

/-- The two ways on from a choice between going on inside a part and leaving it. -/
def choice (greedy : Bool) (inside next : Nat) : Step :=
  .split (if greedy then [inside, next] else [next, inside])

/-- Lays out a part `n` times in a row. -/
def times (part : Nat → Program → Nat × Program) : Nat → Nat → Program → Nat × Program
  | 0, next, prog => (next, prog)
  | n + 1, next, prog =>
    let (next, prog) := times part n next prog
    part next prog

/-- Lays out a part up to `n` times in a row; it can be left at each time. -/
def upTo (greedy : Bool) (part : Nat → Program → Nat × Program) :
    Nat → Nat → Program → Nat × Program
  | 0, next, prog => (next, prog)
  | n + 1, next, prog =>
    let (more, prog) := upTo greedy part n next prog
    let (inside, prog) := part more prog
    emit (choice greedy inside next) prog

/-- Lays out a part once or more often; the answer is the first step of the part. -/
def onceOrMore (greedy : Bool) (part : Nat → Program → Nat × Program) (next : Nat)
    (prog : Program) : Nat × Program :=
  let (again, prog) := emit .accept prog
  let (inside, prog) := part again prog
  (inside, prog.setIfInBounds again (choice greedy inside next))

/-- Lays out a part any number of times. A part that can be empty is laid out as once or more often,
or not at all, which keeps the order of preference. -/
def anyTimes (greedy canBeEmpty : Bool) (part : Nat → Program → Nat × Program) (next : Nat)
    (prog : Program) : Nat × Program :=
  if canBeEmpty then
    let (inside, prog) := onceOrMore greedy part next prog
    emit (choice greedy inside next) prog
  else
    let (again, prog) := emit .accept prog
    let (inside, prog) := part again prog
    (again, prog.setIfInBounds again (choice greedy inside next))

/-- Lays out a pattern in front of the step `next`; the answer is its first step. -/
def layout : Pattern → Nat → Program → Nat × Program
  | .empty, next, prog => (next, prog)
  | .char s, next, prog => emit (.char s next) prog
  | .assert ascii a, next, prog => emit (.assert ascii a next) prog
  | .capture index p, next, prog =>
    let (stop, prog) := emit (.save (2 * index + 1) next) prog
    let (inside, prog) := layout p stop prog
    emit (.save (2 * index) inside) prog
  | .concat p q, next, prog =>
    let (second, prog) := layout q next prog
    layout p second prog
  | .alternate p q, next, prog =>
    let (second, prog) := layout q next prog
    let (first, prog) := layout p next prog
    emit (.split [first, second]) prog
  | .repetition least most greedy p, next, prog =>
    match most, least with
    | none, 0 => anyTimes greedy p.canBeEmpty (fun n g => layout p n g) next prog
    | none, least + 1 =>
      let (more, prog) := onceOrMore greedy (fun n g => layout p n g) next prog
      times (fun n g => layout p n g) least more prog
    | some most, least =>
      let (more, prog) := upTo greedy (fun n g => layout p n g) (most - least) next prog
      times (fun n g => layout p n g) least more prog

/-- The program of a pattern, and its first step. -/
def ofPattern (p : Pattern) : Nat × Program := layout p 0 #[.accept]

/-- The places remembered so far. -/
abbrev Slots := Array (Option Nat)

/-- A way through the program: the step it has come to, which covers a character or accepts, and
what it remembers. -/
structure Thread where
  step : Nat
  slots : Slots

/-- The ways that stand at one place, last one first, and the steps that have been come to. -/
structure Front where
  threads : List Thread
  seen : Array Bool

/-- No ways. -/
def Front.none (prog : Program) : Front := ⟨[], Array.replicate prog.size false⟩

/-- The front with the ways that go on from `todo`, up to the next step that covers a character. -/
def follow (prog : Program) (holds : Bool → Assertion → Bool) (place : Nat) :
    Nat → List Thread → Front → Front
  | 0, _, front => front
  | _ + 1, [], front => front
  | fuel + 1, t :: todo, front =>
    if front.seen.getD t.step true then follow prog holds place fuel todo front
    else
      let front := { front with seen := front.seen.setIfInBounds t.step true }
      match prog[t.step]? with
      | some (.split nexts) =>
        follow prog holds place fuel (nexts.map (⟨·, t.slots⟩) ++ todo) front
      | some (.save slot next) =>
        follow prog holds place fuel (⟨next, t.slots.setIfInBounds slot (some place)⟩ :: todo) front
      | some (.assert ascii a next) =>
        follow prog holds place fuel (if holds ascii a then ⟨next, t.slots⟩ :: todo else todo) front
      | _ => follow prog holds place fuel todo { front with threads := t :: front.threads }

/-- Whether a character belongs to words, among ASCII characters alone or among all. -/
def isWord (ascii : Bool) (c : Char) : Bool := isWordChar c && (!ascii || c.toNat < 0x80)

/-- The conditions that hold between what stands before a place and what follows it. -/
def conditions (before after : Text) (ascii : Bool) (a : Assertion) : Bool :=
  a.holds (isWord ascii) before after

/-- The front with one more way followed. -/
def enter (prog : Program) (before after : Text) (place : Nat) (t : Thread) (front : Front) :
    Front :=
  follow prog (conditions before after) place (2 * prog.size + 2) [t] front

/-- What the ways at one place lead to, most preferred first: the ways behind the next character, if
there is one, and the match of the most preferred way that accepts, behind which no way counts. -/
def advance (prog : Program) (before : Text) (place : Nat) (next? : Option (Char × Text)) :
    List Thread → Front → Option Slots → Front × Option Slots
  | [], front, found => (front, found)
  | t :: rest, front, found =>
    match prog[t.step]?, next? with
    | some .accept, _ => (front, some (t.slots.setIfInBounds 1 (some place)))
    | some (.char s next), some (c, after) =>
      if s.contains c then
        advance prog before place next? rest
          (enter prog (c :: before) after (place + 1) ⟨next, t.slots⟩ front) found
      else advance prog before place next? rest front found
    | _, _ => advance prog before place next? rest front found

/-- The match that the ways at a place lead to, `found` being the best one so far. -/
def runFrom (prog : Program) (before : Text) (place : Nat) (threads : List Thread)
    (found : Option Slots) : Text → Option Slots
  | [] => (advance prog before place none threads (.none prog) found).2
  | c :: after =>
    match advance prog before place (some (c, after)) threads (.none prog) found with
    | (⟨[], _⟩, found) => found
    | (front, found) =>
      runFrom prog (c :: before) (place + 1) front.threads.reverse found after

/-- The match that starts between `before` and `after`: the places of its parts, counted from its
start. -/
def run? (prog : Program) (first captures : Nat) (before after : Text) : Option Slots :=
  let slots := (Array.replicate (2 * captures) none).setIfInBounds 0 (some 0)
  let front := enter prog before after 0 ⟨first, slots⟩ (.none prog)
  runFrom prog before 0 front.threads.reverse none after

end Program

/-- What the remembered parts of a match cover; the whole match is the first of them. -/
abbrev Captures := List (Option Text)

namespace SearchPattern

/-- What the parts of a match cover in the text that it starts. -/
def captured (captures : Nat) (slots : Program.Slots) (after : Text) : Captures :=
  (List.range captures).map fun i =>
    match slots.getD (2 * i) none, slots.getD (2 * i + 1) none with
    | some lo, some hi => some ((after.take hi).drop lo)
    | _, _ => none

/-- A match of a pattern. -/
def site (p : SearchPattern) : Matcher Captures :=
  let (first, prog) := Program.ofPattern p.pattern
  fun before after => do
    let slots ← prog.run? first p.captures before after
    let length ← slots.getD 1 none
    some (captured p.captures slots after, length)

/-- Whether a pattern matches anywhere in a text. -/
def occursIn (p : SearchPattern) (t : Text) : Bool := !(sites p.site t).isEmpty

end SearchPattern

end Multidialect
