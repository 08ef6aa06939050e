import Multidialect.Template.Fault
import Multidialect.Text.Indent
import Multidialect.Template.Directive

/-! # Regions

A region is a part of a template that a dialect may replace: the lines between `// @start key` and
`// @end key`.

* `Marker.parse?`: which lines are markers, well formed or not.
* `Region.parse`: the text as literal parts and regions.
* `Segment.source`: a segment as it was written; `Region.fill`: the text with the regions replaced.
-/

namespace Multidialect

open Text

/-- A line that opens or closes a region, or fails to. -/
inductive Marker where
  | start (key : String)
  | stop (key : String)
  | malformed
  deriving DecidableEq, Repr

namespace Marker

/-- The key that follows a marker's word. -/
def key? (rest : Text) : Option String :=
  let key := trim rest
  if rest.head?.any isBlank && key ≠ [] && key.all isTagChar then some (String.ofList key) else none

/-- The marker that a line's comment spells. -/
def ofComment? (comment : Text) : Option Marker :=
  match stripStart? "@start".toList comment with
  | some rest => some ((key? rest).elim .malformed .start)
  | none =>
    match stripStart? "@end".toList comment with
    | some rest => some ((key? rest).elim .malformed .stop)
    | none => none

/-- The marker on a line, if the line is one. -/
def parse? (line : Text) : Option Marker := (comment? line).bind ofComment?

end Marker

/-- Whether a line is a marker, well formed or not. -/
def Text.isMarker (line : Text) : Bool := (Marker.parse? line).isSome

/-- A region as it was written: its marker lines, what stands between them, its key and the number
of its first line. -/
structure Region where
  key : String
  line : Nat
  opening : Text
  body : Text
  closing : Text
  deriving DecidableEq, Repr

namespace Region

/-- The indentation of a region, that of its start marker. -/
def indent (r : Region) : Text := indentation r.opening

/-- How the lines of a region end: as its end marker does, else as its start marker does. -/
def newline (r : Region) : Newline :=
  (terminator? r.closing).getD ((terminator? r.opening).getD .lf)

end Region

/-- A part of a template: text that is kept, or a region. -/
inductive Segment where
  | literal (text : Text)
  | region (r : Region)
  deriving DecidableEq, Repr

namespace Segment

/-- A segment as it was written. -/
def source : Segment → Text
  | .literal t => t
  | .region r => r.opening ++ r.body ++ r.closing

/-- The region of a segment. -/
def region? : Segment → Option Region
  | .literal _ => none
  | .region r => some r

/-- A literal text in front of segments; an empty one is left out. -/
def consLiteral (t : Text) (segments : List Segment) : List Segment :=
  if t = [] then segments else .literal t :: segments

end Segment

namespace Region

/-- The region that is open while the lines of a text are read. -/
structure Opened where
  key : String
  line : Nat
  opening : Text
  body : Text
  deriving DecidableEq, Repr

/-- The segments from line `n` on, where `seen` holds the keys used before with their lines,
`literal` is the literal text that has not been handed out, and `opened` is the open region. -/
def parseFrom (n : Nat) (seen : List (String × Nat)) (literal : Text) (opened : Option Opened) :
    List Text → Except Fault (List Segment)
  | [] =>
    match opened with
    | some o => .error (.unmatchedStart o.key o.line)
    | none => .ok (Segment.consLiteral literal [])
  | line :: rest =>
    match Marker.parse? line, opened with
    | none, none => parseFrom (n + 1) seen (literal ++ line) none rest
    | none, some o => parseFrom (n + 1) seen literal (some { o with body := o.body ++ line }) rest
    | some .malformed, _ => .error (.malformedMarker n (String.ofList (trim line)))
    | some (.start key), some o => .error (.nestedRegion o.key key n)
    | some (.start key), none =>
      match seen.lookup key with
      | some first => .error (.duplicateRegion key n first)
      | none => do
        let tail ← parseFrom (n + 1) ((key, n) :: seen) [] (some ⟨key, n, line, []⟩) rest
        return Segment.consLiteral literal tail
    | some (.stop key), none => .error (.unmatchedEnd key n)
    | some (.stop key), some o =>
      if o.key = key then do
        let tail ← parseFrom (n + 1) seen [] none rest
        return .region ⟨o.key, o.line, o.opening, o.body, line⟩ :: tail
      else .error (.mismatchedEnd o.key key n)

/-- The segments of a text. -/
def parse (t : Text) : Except Fault (List Segment) := parseFrom 1 [] [] none (physicalLines t)

/-- The keys of the regions of a text, in order. -/
def keys (t : Text) : Except Fault (List String) :=
  (parse t).map fun segments => (segments.filterMap Segment.region?).map (·.key)

/-- The text that takes a region's place: the override moved to the region's indentation, with the
region's terminators, or the body where there is no override. -/
def filled (lookup : String → Option Text) (r : Region) : Text :=
  match lookup r.key with
  | none => r.body
  | some replacement =>
    let block := reindent replacement r.indent
    if block = [] then []
    else (block.flatMap fun c => if c = '\n' then r.newline.text else [c]) ++ r.newline.text

/-- The segments as one text, each region replaced. -/
def fill (lookup : String → Option Text) (segments : List Segment) : Text :=
  segments.flatMap fun
    | .literal t => t
    | .region r => filled lookup r

end Region

end Multidialect
