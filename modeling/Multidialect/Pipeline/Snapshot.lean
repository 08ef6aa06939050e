import Multidialect.Pipeline.Basic

/-! # Snapshots

A record of the text after every pass. The snapshots of a pair are numbered from 1.

* `SnapshotLog.capture`: one more snapshot, with its number.
* `Plugin.recording`: the onlooker that keeps a log.
-/

namespace Multidialect

/-- The text of a pair right after a pass. -/
structure PassSnapshot where
  template : String
  dialect : String
  pass : String
  text : Text
  diagnostics : List Diagnostic
  deriving DecidableEq, Repr

namespace PassSnapshot

/-- What there is to record after a pass. -/
def ofDraft (pass : String) (c : RenderContext) (d : Draft) : PassSnapshot :=
  ⟨c.template.name, c.dialect.name, pass, d.text, d.diagnostics⟩

/-- A number with at least two digits. -/
def twoDigits (n : Nat) : String := if n < 10 then "0" ++ toString n else toString n

/-- Where a snapshot with a given number is written to. -/
def relativePath (s : PassSnapshot) (ordinal : Nat) : Path :=
  ((Path.mk s.dialect).join ⟨s.template⟩).join ⟨twoDigits ordinal ++ "-" ++ s.pass ++ ".json"⟩

/-- Whether two snapshots are of one pair. -/
def samePair (s t : PassSnapshot) : Bool := s.template == t.template && s.dialect == t.dialect

/-- A snapshot as JSON. -/
def json (s : PassSnapshot) : Json :=
  .object [("template", .string s.template), ("dialect", .string s.dialect),
    ("pass", .string s.pass), ("text", .string (String.ofList s.text)),
    ("diagnostics", .array (s.diagnostics.map Diagnostic.json))]

end PassSnapshot

/-- Snapshots with their numbers, in the order in which they were taken. -/
abbrev SnapshotLog := List (Nat × PassSnapshot)

namespace SnapshotLog

/-- The number of the next snapshot of a pair. -/
def nextOrdinal (log : SnapshotLog) (s : PassSnapshot) : Nat :=
  1 + (log.filter fun entry => entry.2.samePair s).length

/-- The log with one more snapshot. -/
def capture (log : SnapshotLog) (s : PassSnapshot) : SnapshotLog := log ++ [(log.nextOrdinal s, s)]

end SnapshotLog

/-- The onlooker that takes a snapshot after every pass. What is kept holds the log among other
things. -/
def Plugin.recording {σ : Type} (log : σ → SnapshotLog) (setLog : SnapshotLog → σ → σ) :
    Plugin σ where
  before _ _ s := (s, .ok ())
  after pass c s :=
    ({ s with kept := setLog ((log s.kept).capture (.ofDraft pass c s.draft)) s.kept }, .ok ())

end Multidialect
