import Multidialect.Command.Report

/-! # Operations

What the commands do with a project: generate its modules, check it, remove what was generated, or
list what becomes of its templates.
-/

namespace Multidialect.Project

/-- Generates the modules of a project. Pairs that cannot be rendered are told of in the report. -/
def generate (p : Project) (o : GenerateOptions) (snapshotDir : Option Path) (t : FileTree) :
    FileTree × Except RunError GenerateReport :=
  let g := p.generator
  let plugins :=
    match snapshotDir with
    | some dir => [Plugin.writing dir]
    | none => []
  let report (warnings : List String) (result : GenerateResult) : GenerateReport :=
    ⟨g.outputDir, warnings, snapshotDir, result⟩
  match g.generateWith plugins o t with
  | (t, .error (.generationFailed failures)) => (t, .ok (report [] (.failed failures)))
  | (t, .error e) => (t, .error e)
  | (t, .ok outcome) =>
    let warnings := (outcome.diagnostics.filter Diagnostic.isWarning).map Diagnostic.describe
    let result :=
      if outcome.dryRun then .preview outcome.files outcome.cleared
      else
        .written ((Dialect.selected o.dialects).map (.ofOutcome outcome)) outcome.stats.written
          outcome.stats.skipped outcome.cleared
    (t, .ok (report warnings result))

/-- Renders all pairs of a project without writing anything, and runs the lints. -/
def check (p : Project) (includeInfo : Bool) (t : FileTree) : Except RunError CheckReport := do
  let g := p.generator
  let templates ← (g.loadTemplates t).mapError .files
  let rendered := g.render templates Dialect.all
  let remarks := rendered.diagnostics ++ g.lint templates
  let (warnings, infos) := remarks.partition Diagnostic.isWarning
  return {
    configPath := p.path
    templates := templates.length
    modules := rendered.modules.length
    gated := rendered.gated.length
    errors := rendered.failures.map PairFailure.line
    warnings := warnings.map Diagnostic.describe
    infos := if includeInfo then infos.map Diagnostic.describe else [] }

/-- Removes the directories of the selected dialects. -/
def clean (p : Project) (dialects : List Dialect) (dryRun : Bool) (t : FileTree) :
    FileTree × Except RunError CleanReport :=
  match p.generator.clean dryRun (Dialect.selected dialects) t with
  | (t, .ok removed) => (t, .ok ⟨dryRun, removed⟩)
  | (t, .error e) => (t, .error (.cleaning e))

/-- Lists what becomes of the templates of a project. -/
def list (p : Project) (t : FileTree) : Except RunError ListReport := do
  let g := p.generator
  let templates ← (g.loadTemplates t).mapError .files
  return ⟨g.templatesDir, g.outputDir, p.manifest.reference, g.matrix templates, g.pipeline.infos⟩

end Multidialect.Project
