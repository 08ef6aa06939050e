import Multidialect.Manifest.Error

/-! # A manifest's source

The text of a manifest with its file name and the table that is being looked at, which is what an
error needs to say where it arose.
-/

namespace Multidialect

open Text

/-- A place in a manifest: its text, its file name, and the path of the table looked at. -/
structure ManifestSource where
  text : String
  fileName : String
  path : List String
  deriving DecidableEq, Repr

namespace ManifestSource

/-- A manifest as a whole. -/
def ofText (text fileName : String) : ManifestSource := ⟨text, fileName, []⟩

/-- A table in the table looked at. -/
def push (s : ManifestSource) (segment : String) : ManifestSource :=
  { s with path := s.path ++ [segment] }

/-- The path of the table looked at, with dots. -/
def pathText (s : ManifestSource) : String := String.intercalate "." s.path

/-- What `kind` of thing an error is about, and in which table. -/
def describe (s : ManifestSource) (kind : String) : String :=
  if s.path = [] then kind
  else
    let path := s.pathText
    s!"{kind} in '{path}'"

/-- The place of a name or value. -/
def span? (s : ManifestSource) (needle : String) : Option Span :=
  Span.find? needle.toList s.text.toList

/-- The error for a setting that makes no sense, pointing at `needle`. -/
def misconfigured (s : ManifestSource) (what : Misconfiguration) (needle : String) :
    ManifestError :=
  .misconfigured what (s.span? needle)

/-- Refuses a name that is no identifier. -/
def checkName (s : ManifestSource) (name kind : String) : Except ManifestError Unit :=
  match NameFault.find? name.toList with
  | none => .ok ()
  | some fault => .error (.invalidName name (s.describe kind) fault (s.span? name))

end ManifestSource

end Multidialect
