import Multidialect.Command.Log
import Multidialect.Command.Operation
import Multidialect.Command.Request

/-! # Running commands

A command line is answered by an exit code and two texts, one for each stream, and by the files as
they are then. The code is 0 for success, 1 for a project that cannot be dealt with and 2 for words
that make no sense.

* `CommandLine.run`: the answer to a command line.
* `Job.reach`: where a job looks for files.
-/

namespace Multidialect

/-- What a command line is answered by. -/
structure Answer where
  code : Nat
  output : String
  errors : String
  deriving DecidableEq, Repr

namespace Answer

/-- The answer that tells nothing but that something cannot be done. -/
def fatal (message : String) : Answer := ⟨1, "", s!"Error: {message}\n"⟩

/-- A report as an answer, with what a log tells in front of its errors. -/
def ofLines (code : Nat) (log : String) (lines : List ReportLine) : Answer :=
  ⟨code, ReportLine.shown lines, log ++ ReportLine.shownErrors lines⟩

end Answer

/-- What can be asked for. -/
def usage : String :=
  "Generate per-dialect modules from reference templates\n\n" ++
    "Usage: dialectic [OPTIONS] <COMMAND>\n\n" ++
    "Commands:\n" ++
    String.join (CommandName.all.map fun c => "  " ++ c.name ++ "  " ++ c.description ++ "\n") ++
    "\nOptions:\n  -v, --verbose...  Increase log verbosity (-v info, -vv debug, -vvv trace)\n" ++
    "  -h, --help        Print help\n  -V, --version     Print version\n"

/-- The script that completes the names of commands in a shell. -/
def Shell.script (s : Shell) : String :=
  let words := String.intercalate " " (CommandName.all.map (·.name))
  match s with
  | .bash => s!"complete -W \"{words}\" dialectic\n"
  | .elvish =>
    s!"set edit:completion:arg-completer[dialectic] = \x7b|@rest| put {words} \x7d\n"
  | .fish => s!"complete -c dialectic -f -a \"{words}\"\n"
  | .powershell =>
    s!"Register-ArgumentCompleter -Native -CommandName dialectic -ScriptBlock \x7b " ++
      s!"\"{words}\".Split() \x7d\n"
  | .zsh => s!"#compdef dialectic\ncompadd {words}\n"

/-- What is said when words are not read to their end. -/
def Halt.answer : Halt → Answer
  | .help => ⟨0, usage, ""⟩
  | .version => ⟨0, "dialectic 0.3.0\n", ""⟩
  | .misuse e => ⟨2, "", "error: " ++ e.message ++ "\n\nFor more information, try '--help'.\n"⟩

namespace Job

/-- What a log tells of rendering pairs. -/
def renderLog (verbosity : Nat) (g : Generator) (dialects : List Dialect) (t : FileTree) : String :=
  if verbosity < 2 then ""
  else
    match g.loadTemplates t with
    | .ok templates => LogLine.shown verbosity (g.log templates dialects)
    | .error _ => ""

/-- What comes of a job. -/
def run (verbosity : Nat) (p : Project) (t : FileTree) : Job → FileTree × Answer
  | .generate o snapshotDir =>
    let log := renderLog verbosity p.generator (Dialect.selected o.dialects) t
    match p.generate o snapshotDir t with
    | (t, .error e) => (t, .fatal e.message)
    | (t, .ok report) =>
      (t, .ofLines (if report.isSuccess then 0 else 1)
        (log ++ LogLine.shown verbosity report.log) report.lines)
  | .check =>
    let log := renderLog verbosity p.generator Dialect.all t
    match p.check (0 < verbosity) t with
    | .error e => (t, .fatal e.message)
    | .ok report => (t, .ofLines (if report.isValid then 0 else 1) log report.lines)
  | .clean dialects dryRun =>
    match p.clean dialects dryRun t with
    | (t, .error e) => (t, .fatal e.message)
    | (t, .ok report) => (t, .ofLines 0 "" report.lines)
  | .list json =>
    match p.list t with
    | .error e => (t, .fatal e.message)
    | .ok report =>
      (t, if json then ⟨0, report.json.render ++ "\n", ""⟩ else .ofLines 0 "" report.lines)

/-- Where a job looks for files of a project, or puts them. -/
def reach (p : Project) (job : Job) : List Path :=
  let g := p.generator
  let extras := g.manifest.profiles.filterMap fun profile => profile.extras.map p.resolve
  let snapshots :=
    match job with
    | .generate _ (some dir) => [dir]
    | _ => []
  g.templatesDir :: Dialect.all.map g.dialectDir ++ extras ++ snapshots

end Job

/-- What comes of a command. -/
def Command.run (verbosity : Nat) (c : Command) (t : FileTree) : FileTree × Answer :=
  match c with
  | .completions shell => (t, ⟨0, shell.script, ""⟩)
  | .project config job =>
    match Project.read config t with
    | .error e => (t, .fatal e.message)
    | .ok p => job.run verbosity p t

/-- The answer to a command line: the words behind the program's name. -/
def CommandLine.run (words : List String) (t : FileTree) : FileTree × Answer :=
  match Request.read words with
  | .error halt => (t, halt.answer)
  | .ok r => r.command.run r.verbosity t

end Multidialect
