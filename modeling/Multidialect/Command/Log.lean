import Multidialect.Command.Report

/-! # Logs

What is told of a run while it goes on, for those who ask for it: what becomes of each pair, and
what each dialect received.

* `Generator.log`: what there is to tell of rendering pairs.
* `GenerateReport.log`: what there is to tell of a run that wrote files.
-/

namespace Multidialect

/-- How much has to be asked for before a line is told. -/
inductive LogLevel where
  | info
  | debug
  deriving DecidableEq, Repr

/-- A line of a log. -/
structure LogLine where
  level : LogLevel
  text : String
  deriving DecidableEq, Repr

namespace LogLine

/-- Whether a line is told when a given number of askings is made. -/
def isTold (verbosity : Nat) (l : LogLine) : Bool :=
  match l.level with
  | .info => 1 ≤ verbosity
  | .debug => 2 ≤ verbosity

/-- A line as it is shown. -/
def terminal (l : LogLine) : String :=
  match l.level with
  | .info => " INFO " ++ l.text ++ "\n"
  | .debug => "DEBUG " ++ l.text ++ "\n"

/-- The lines that are told, as they are shown. -/
def shown (verbosity : Nat) (lines : List LogLine) : String :=
  String.join ((lines.filter (isTold verbosity)).map terminal)

end LogLine

/-- The names of the replacers that change a text, up to the first that refuses it. -/
def Replacer.applied (d : Dialect) : List Replacer → Text → List String
  | [], _ => []
  | r :: rest, t =>
    if r.appliesTo d then
      match r.apply d t with
      | .ok t => r.name :: applied d rest t
      | .error _ => []
    else applied d rest t

/-- The onlooker that notes every pass that is done. -/
def Plugin.noting : Plugin (List String) where
  before _ _ s := (s, .ok ())
  after pass _ s := ({ s with kept := s.kept ++ [pass] }, .ok ())

namespace Generator

/-- What there is to tell of one pair. -/
def logOne (g : Generator) (d : Dialect) (t : Template) : List LogLine :=
  let pair := t.name ++ "." ++ d.name
  if g.manifest.allows t.name d then
    if d = g.manifest.reference then []
    else
      let replaced := Replacer.applied d (g.replacers.replacers t.name) t.source.toList
      let (passes, _) := g.renderOne [Plugin.noting] d t []
      replaced.map (⟨.debug, s!"{pair}: replacer applied: " ++ ·⟩) ++
        passes.map (⟨.debug, s!"{pair}: pass complete: " ++ ·⟩)
  else [⟨.debug, s!"{pair}: gated"⟩]

/-- What there is to tell of rendering pairs. -/
def log (g : Generator) (templates : List Template) (dialects : List Dialect) : List LogLine :=
  (pairsOf dialects templates).flatMap fun (d, t) => g.logOne d t

end Generator

/-- What there is to tell of a run that wrote files. -/
def GenerateReport.log (r : GenerateReport) : List LogLine :=
  match r.result with
  | .written dialects _ _ _ =>
    dialects.map fun s => ⟨.info, s.dialect.name ++ ": dialect generated: " ++ s.text⟩
  | _ => []

end Multidialect
