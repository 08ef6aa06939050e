import Multidialect.Project

/-! # Reports

What a command has to tell, as a list of lines that each say what kind of line they are.

* `ReportLine.terminal`: how a line is shown on a terminal, and on which of its two streams.
* `GenerateReport.lines`, `CheckReport.lines`, `CleanReport.lines`, `ListReport.lines`: the reports.
-/

namespace Multidialect

/-- A line of a report. -/
inductive ReportLine where
  | sectionHead (name : String)
  | keyValue (key value : String)
  | indentedKeyValue (key value : String)
  | numbered (n : Nat) (text : String)
  | listed (text : String)
  | removed (text : String)
  | warning (text : String)
  | error (text : String)
  | divider (label : String)
  | preformatted (text : String)
  | newline
  deriving DecidableEq, Repr

namespace ReportLine

/-- Whether a line belongs to the stream of errors. -/
def isError : ReportLine → Bool
  | .warning _ => true
  | .error _ => true
  | _ => false

/-- A line as it is shown. -/
def terminal : ReportLine → String
  | .sectionHead name => s!"{name}:\n"
  | .keyValue key value => s!"{key}: {value}\n"
  | .indentedKeyValue key value => s!"  {key}: {value}\n"
  | .numbered n text => s!"  {n}. {text}\n"
  | .listed text => s!"  - {text}\n"
  | .removed text => s!"  - {text}\n"
  | .warning text => s!"warning: {text}\n"
  | .error text => s!"error: {text}\n"
  | .divider label => s!"── {label} ──\n"
  | .preformatted text => s!"{text}\n"
  | .newline => "\n"

/-- The lines that are no errors, as they are shown. -/
def shown (lines : List ReportLine) : String :=
  String.join ((lines.filter (!·.isError)).map terminal)

/-- The warnings and errors, as they are shown. -/
def shownErrors (lines : List ReportLine) : String :=
  String.join ((lines.filter (·.isError)).map terminal)

end ReportLine

/-! ## Generating -/

/-- What a dialect's directory received. -/
structure DialectSummary where
  dialect : Dialect
  modules : Nat
  extras : Nat
  gated : List String
  deriving DecidableEq, Repr

namespace DialectSummary

/-- What a run did for a dialect. -/
def ofOutcome (o : GenerateOutcome) (d : Dialect) : DialectSummary :=
  let count (category : Category) : Nat :=
    (o.files.filter fun f => f.category == category && f.path.startsWith ⟨d.name⟩).length
  ⟨d, count .generated, count .extra, (o.gated.filter (·.2 == d)).map Prod.fst⟩

/-- A summary on one line. -/
def text (s : DialectSummary) : String :=
  let modules := s.modules
  let extras := s.extras
  let gated := String.intercalate ", " s.gated
  s!"{modules} modules" ++ (if extras = 0 then "" else s!", {extras} extras") ++
    (if s.gated = [] then "" else s!", gated: {gated}")

end DialectSummary

/-- How a run ended. -/
inductive GenerateResult where
  | written (dialects : List DialectSummary) (written : Nat) (skipped cleared : List Path)
  | preview (files : List PlannedFile) (cleared : List Path)
  | failed (failures : List PairFailure)
  deriving DecidableEq, Repr

/-- What is told of a run. -/
structure GenerateReport where
  outputDir : Path
  warnings : List String
  snapshotDir : Option Path
  result : GenerateResult
  deriving DecidableEq, Repr

namespace GenerateReport

/-- Whether every pair was rendered. -/
def isSuccess (r : GenerateReport) : Bool :=
  match r.result with
  | .failed _ => false
  | _ => true

/-- Directories that were cleared, under a heading, if there are any. -/
def clearedLines (heading : String) (cleared : List Path) : List ReportLine :=
  if cleared = [] then [] else .sectionHead heading :: cleared.map (.removed ·.text)

/-- What is told of a run that wrote files. -/
def writtenLines (outputDir : Path) (dialects : List DialectSummary) (written : Nat)
    (skipped cleared : List Path) : List ReportLine :=
  .sectionHead "Dialects" ::
    dialects.map (fun s => .indentedKeyValue s.dialect.name s.text) ++ [.newline] ++
    clearedLines "Cleared" cleared ++ (if cleared = [] then [] else [.newline]) ++
    [.keyValue "Generated" s!"{outputDir} ({written} files)"] ++
    (if skipped = [] then []
      else .newline :: .sectionHead "Kept existing" :: skipped.map (.listed ·.text))

/-- What is told of a run that only looked. -/
def previewLines (files : List PlannedFile) (cleared : List Path) : List ReportLine :=
  let count := files.length
  files.flatMap (fun f => [.divider f.path.text, .preformatted f.content]) ++
    [.divider "Summary", .preformatted s!"{count} files would be generated"] ++
    clearedLines "Would clear" cleared

/-- What is told of a run that failed. -/
def failureLines (failures : List PairFailure) : List ReportLine :=
  let count := failures.length
  failures.map (.error ·.line) ++
    [.newline,
      .preformatted s!"generation failed for {count} pair(s); nothing was written"]

/-- The lines of a report. -/
def lines (r : GenerateReport) : List ReportLine :=
  (match r.snapshotDir with
    | some dir => [.keyValue "Pass snapshots written to" dir.text, .newline]
    | none => []) ++
    r.warnings.map .warning ++
    match r.result with
    | .written dialects written skipped cleared =>
      writtenLines r.outputDir dialects written skipped cleared
    | .preview files cleared => previewLines files cleared
    | .failed failures => failureLines failures

end GenerateReport

/-! ## Checking -/

/-- What is told of a check. -/
structure CheckReport where
  configPath : Path
  templates : Nat
  modules : Nat
  gated : Nat
  errors : List String
  warnings : List String
  infos : List String
  deriving DecidableEq, Repr

namespace CheckReport

/-- Whether every pair can be rendered. -/
def isValid (r : CheckReport) : Bool := r.errors.isEmpty

/-- The lines of a report. -/
def lines (r : CheckReport) : List ReportLine :=
  let config := r.configPath
  let templates := r.templates
  let modules := r.modules
  let gated := r.gated
  let count := r.errors.length
  r.errors.map .error ++ r.warnings.map .warning ++
    r.infos.map (fun info => .preformatted s!"info: {info}") ++
    (if r.errors ++ r.warnings ++ r.infos = [] then [] else [.newline]) ++
    [.preformatted
      (if r.isValid then
        s!"✓ {config} is valid ({templates} templates, {modules} modules, {gated} gated)"
      else s!"✗ {count} error(s)")]

end CheckReport

/-! ## Cleaning -/

/-- What is told of a cleaning. -/
structure CleanReport where
  dryRun : Bool
  removed : List Path
  deriving DecidableEq, Repr

/-- The lines of a report. -/
def CleanReport.lines (r : CleanReport) : List ReportLine :=
  if r.removed = [] then [.preformatted "Nothing to clean."]
  else
    .sectionHead (if r.dryRun then "Would delete" else "Deleted") :: r.removed.map (.removed ·.text)

/-! ## Listing -/

/-- The name, the description and the stage of a pass. -/
structure PassInfo where
  name : String
  description : String
  stage : Stage
  deriving DecidableEq, Repr

/-- What a pipeline's passes are. -/
def Pipeline.infos (p : Pipeline) : List PassInfo :=
  p.passes.map fun pass => ⟨pass.name, pass.description, pass.stage⟩

/-- What is told of the templates and of what becomes of them. -/
structure ListReport where
  templatesDir : Path
  outputDir : Path
  reference : Dialect
  rows : List MatrixRow
  passes : List PassInfo
  deriving DecidableEq, Repr

namespace ListReport

/-- A text with spaces behind it, up to a number of characters. -/
def pad (width : Nat) (s : String) : Text :=
  s.toList ++ List.replicate (width - s.toList.length) ' '

/-- A line of columns: the first of a given width, then those of the dialects, then the rest. -/
def columns (width : Nat) (first : String) (cells : List String) (rest : Text) : ReportLine :=
  .preformatted (String.ofList (Text.trimEnd
    (pad width first ++ cells.flatMap (fun cell => [' ', ' '] ++ pad 9 cell) ++ rest)))

/-- The width of the first column, in bytes of the longest name. -/
def width (rows : List MatrixRow) : Nat :=
  (rows.map fun row => Text.byteLength row.template.toList).foldl max "template".length

/-- The names of a row's replacers in brackets, if there are any. -/
def replacerText (names : List String) : Text :=
  if names = [] then []
  else [' ', ' ', '['] ++ (String.intercalate ", " names).toList ++ [']']

/-- The lines of a report. -/
def lines (r : ListReport) : List ReportLine :=
  if r.rows = [] then
    let dir := r.templatesDir
    [.preformatted s!"No templates in {dir}"]
  else
    let width := width r.rows
    [.keyValue "Templates" r.templatesDir.text, .keyValue "Output" r.outputDir.text, .newline,
        columns width "template" (Dialect.all.map (·.name)) []] ++
      r.rows.map (fun row =>
        columns width row.template (row.dialects.map (·.2.name)) (replacerText row.replacers)) ++
      [.newline, .sectionHead "Passes"] ++
      r.passes.mapIdx fun i pass => .numbered (i + 1) (pass.name ++ " - " ++ pass.description)

/-- A row as JSON. -/
def rowJson (row : MatrixRow) : Json :=
  .object [("template", .string row.template),
    ("dialects", .array (row.dialects.map fun (d, availability) =>
      .array [.string d.name, .string availability.name])),
    ("replacers", .array (row.replacers.map .string))]

/-- A pass as JSON. -/
def passJson (pass : PassInfo) : Json :=
  .object [("name", .string pass.name), ("description", .string pass.description),
    ("stage", .string pass.stage.name)]

/-- A report as JSON. -/
def json (r : ListReport) : Json :=
  .object [("templates_dir", .string r.templatesDir.text),
    ("output_dir", .string r.outputDir.text), ("reference", .string r.reference.name),
    ("rows", .array (r.rows.map rowJson)), ("passes", .array (r.passes.map passJson))]

end ListReport

end Multidialect
