import Multidialect.Json

/-! # Diagnostics

What passes and lints have to say that keeps nothing from being generated.
-/

namespace Multidialect

/-- How much a diagnostic matters. -/
inductive Severity where
  | warning
  | info
  deriving DecidableEq, Repr

/-- A remark of a pass or a lint, perhaps with the place that it is about. -/
structure Diagnostic where
  severity : Severity
  source : String
  message : String
  location : Option String
  deriving DecidableEq, Repr

namespace Diagnostic

/-- Whether a diagnostic is a warning. -/
def isWarning (d : Diagnostic) : Bool := d.severity == .warning

/-- A diagnostic on one line. -/
def line (d : Diagnostic) : String :=
  let severity := if d.isWarning then "warning" else "info"
  let message := d.message
  match d.location with
  | some location => s!"{severity}: {message} (at {location})"
  | none => s!"{severity}: {message}"

/-- A diagnostic with its place on a line of its own. -/
def describe (d : Diagnostic) : String :=
  match d.location with
  | some location => d.message ++ "\n  --> " ++ location
  | none => d.message

/-- The name of a severity. -/
def severityName (d : Diagnostic) : String := if d.isWarning then "Warning" else "Info"

/-- A diagnostic as JSON. -/
def json (d : Diagnostic) : Json :=
  .object [("severity", .string d.severityName), ("source", .string d.source),
    ("message", .string d.message), ("location", d.location.elim .null .string)]

end Diagnostic

end Multidialect
