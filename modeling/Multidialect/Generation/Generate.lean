import Multidialect.Generation.Barrel
import Multidialect.Generation.Registry
import Multidialect.Generation.Render
import Multidialect.Lint
import Multidialect.Pipeline.Snapshot

/-! # Generating

A run loads the templates, renders all pairs, plans all files, clears the directories of the
selected dialects and writes the files. Nothing is cleared or written unless every pair is rendered
and every file is planned.

* `Generator.plan`: the files of a run.
* `Generator.generate`: a run.
* `Generator.clean`: removes the directories of dialects.
-/

namespace Multidialect

/-- Why a run is given up. -/
inductive RunError where
  | files (e : FileError)
  /-- Outputs could not be cleaned. -/
  | cleaning (e : FileError)
  | gatedWrite (template : String) (d : Dialect)
  | generationFailed (failures : List PairFailure)
  deriving DecidableEq, Repr

namespace RunError

/-- The wording of an error. -/
def message : RunError → String
  | .files e => e.message
  | .cleaning e => "Failed to clean output directories: " ++ e.message
  | .gatedWrite template d =>
    s!"refusing to write '{template}' for {d}: the template is gated for this dialect"
  | .generationFailed failures =>
    let count := failures.length
    s!"generation failed for {count} pair(s)"

/-- The code under which an error is documented. -/
def code? : RunError → Option String
  | .gatedWrite .. => some "dialectic::gated_write"
  | .generationFailed _ => some "dialectic::generation_failed"
  | _ => none

end RunError

/-- What a run is asked for. No dialects stand for all of them. -/
structure GenerateOptions where
  dialects : List Dialect
  keepExisting : Bool
  dryRun : Bool
  deriving DecidableEq, Repr

/-- The dialects selected by a list, in order; no dialects select all. -/
def Dialect.selected (dialects : List Dialect) : List Dialect :=
  all.filter fun d => dialects.isEmpty || dialects.contains d

/-- What a run did, or would do. -/
structure GenerateOutcome where
  dryRun : Bool
  files : List PlannedFile
  gated : List (String × Dialect)
  cleared : List Path
  stats : WriteStats
  diagnostics : List Diagnostic
  deriving DecidableEq, Repr

/-- What is kept while a run renders: the snapshots, and the files. -/
structure Recorder where
  log : SnapshotLog
  tree : FileTree

/-- The onlooker that takes a snapshot after every pass and writes it below a directory. -/
def Plugin.writing (dir : Path) : Plugin Recorder where
  before _ _ s := (s, .ok ())
  after pass c s :=
    let snapshot := PassSnapshot.ofDraft pass c s.draft
    let path := dir.join (snapshot.relativePath (s.kept.log.nextOrdinal snapshot))
    match s.kept.tree.put path snapshot.json.render with
    | (tree, r) =>
      ({ s with kept := ⟨s.kept.log.capture snapshot, tree⟩ },
        r.mapError fun e => .other e.message)

namespace Generator

/-- The directory of the templates. -/
def templatesDir (g : Generator) : Path := g.root.join g.manifest.generator.templates

/-- The directory that holds the directories of the dialects. -/
def outputDir (g : Generator) : Path := g.root.join g.manifest.generator.output

/-- The directory of a dialect's modules. -/
def dialectDir (g : Generator) (d : Dialect) : Path := g.outputDir.child d.name

/-- The templates of the project. -/
def loadTemplates (g : Generator) (t : FileTree) : Except FileError (List Template) :=
  t.loadTemplates g.templatesDir g.manifest.generator.extensions

/-- Refuses to write a module for a dialect that cannot offer it. -/
def ensureAllowed (g : Generator) (template : String) (d : Dialect) : Except RunError Unit :=
  if g.manifest.allows template d then .ok () else .error (.gatedWrite template d)

/-- The stub of a dialect's directory, if the manifest asks for stubs. -/
def planStub (g : Generator) (d : Dialect) : List PlannedFile :=
  let s := g.manifest.generator
  if s.tsconfig then
    [.stub ((Path.mk d.name).child "tsconfig.json") s.tsconfigExtends .config]
  else []

/-- The modules of a dialect. -/
def planModules (g : Generator) (modules : List GeneratedModule) (d : Dialect) :
    Except RunError (List PlannedFile) :=
  (modules.filter (·.dialect == d)).mapM fun m => do
    g.ensureAllowed m.template d
    return .ofCategory .generated m.path m.content

/-- The barrel that a dialect starts from: the one that is there, or an empty one. -/
def startBarrel (keepExisting : Bool) (path : Path) (t : FileTree) : Except FileError Barrel :=
  if keepExisting && t.exists? path then
    (FileFault.during .readBarrel path (t.read path)).map fun s => Barrel.ofText s.toList
  else .ok .empty

/-- The extra modules of a dialect and their barrel. A file that is called like the barrel is no
extra module. -/
def planExtras (g : Generator) (d : Dialect) (keepExisting : Bool) (t : FileTree) :
    Except RunError (List PlannedFile) :=
  let s := g.manifest.generator
  match (g.manifest.profile d).extras with
  | none => .ok []
  | some extras => do
    let target := (Path.mk d.name).join s.extrasTarget
    let barrelPath := target.child s.barrel
    let start ← (startBarrel keepExisting (g.outputDir.join barrelPath) t).mapError .files
    let modules ← (t.loadTemplates (g.root.join extras) s.extensions).mapError .files
    let modules := modules.filter (·.fileName != s.barrel)
    let barrel := start.appendAll (modules.map (·.name.toList))
    return modules.map (fun m => .ofCategory .extra (target.child m.fileName) m.source) ++
      [.ofCategory .barrel barrelPath (String.ofList barrel.render)]

/-- All files of a dialect. -/
def planDialect (g : Generator) (modules : List GeneratedModule) (keepExisting : Bool)
    (t : FileTree) (d : Dialect) : Except RunError (List PlannedFile) := do
  let modules ← g.planModules modules d
  let extras ← g.planExtras d keepExisting t
  return g.planStub d ++ modules ++ extras

/-- All files of a run. With `keepExisting`, barrels go on from those that are there. -/
def plan (g : Generator) (modules : List GeneratedModule) (dialects : List Dialect)
    (keepExisting : Bool) (t : FileTree) : Except RunError FileRegistry := do
  let files ← dialects.mapM (g.planDialect modules keepExisting t)
  return ⟨files.flatten⟩

/-- Clears the directories of dialects unless they are to be kept, and makes them. The answer holds
the directories that were cleared. -/
def prepareDirs (g : Generator) (keepExisting : Bool) :
    List Dialect → FileTree → FileTree × Except FileError (List Path)
  | [], t => (t, .ok [])
  | d :: rest, t =>
    let dir := g.dialectDir d
    match if keepExisting then .ok (t, false) else t.clear dir with
    | .error e => (t, .error e)
    | .ok (t, gone) =>
      match t.createDirs dir with
      | (t, .error fault) => (t, .error ⟨.create, dir, fault⟩)
      | (t, .ok ()) =>
        let (t, r) := prepareDirs g keepExisting rest t
        (t, r.map fun cleared => if gone then dir :: cleared else cleared)

/-- Prepares the directories and writes the files of a run. -/
def writeOut (g : Generator) (keepExisting : Bool) (dialects : List Dialect) (r : FileRegistry)
    (t : FileTree) : FileTree × Except FileError (List Path × WriteStats) :=
  match g.prepareDirs keepExisting dialects t with
  | (t, .error e) => (t, .error e)
  | (t, .ok cleared) =>
    let (t, stats) := r.writeAll g.outputDir t
    (t, stats.map fun s => (cleared, s))

/-- The directories that a run would clear. -/
def wouldClear (g : Generator) (o : GenerateOptions) (t : FileTree) : List Path :=
  if o.keepExisting then []
  else ((Dialect.selected o.dialects).map g.dialectDir).filter t.exists?

/-- A run: the files as they are then, and what it did. -/
def generateWith (g : Generator) (plugins : List (Plugin Recorder)) (o : GenerateOptions)
    (t : FileTree) : FileTree × Except RunError GenerateOutcome :=
  match g.loadTemplates t with
  | .error e => (t, .error (.files e))
  | .ok templates =>
    let dialects := Dialect.selected o.dialects
    let (kept, rendered) := g.renderWith plugins templates dialects ⟨[], t⟩
    let t := kept.tree
    if rendered.failures ≠ [] then (t, .error (.generationFailed rendered.failures))
    else
      match g.plan rendered.modules dialects o.keepExisting t with
      | .error e => (t, .error e)
      | .ok registry =>
        let outcome (cleared : List Path) (stats : WriteStats) : GenerateOutcome :=
          ⟨o.dryRun, registry.inOrder, rendered.gated, cleared, stats, rendered.diagnostics⟩
        if o.dryRun then (t, .ok (outcome (g.wouldClear o t) .none))
        else
          match g.writeOut o.keepExisting dialects registry t with
          | (t, .error e) => (t, .error (.files e))
          | (t, .ok (cleared, stats)) => (t, .ok (outcome cleared stats))

/-- A run that nobody looks at. -/
def generate (g : Generator) (o : GenerateOptions) (t : FileTree) :
    FileTree × Except RunError GenerateOutcome :=
  g.generateWith [] o t

/-- Removes the directories of dialects; the answer holds those that were there. A dry run only
looks for them. -/
def clean (g : Generator) (dryRun : Bool) :
    List Dialect → FileTree → FileTree × Except FileError (List Path)
  | [], t => (t, .ok [])
  | d :: rest, t =>
    let dir := g.dialectDir d
    match if dryRun then .ok (t, t.exists? dir) else t.clear dir with
    | .error e => (t, .error e)
    | .ok (t, gone) =>
      let (t, r) := clean g dryRun rest t
      (t, r.map fun removed => if gone then dir :: removed else removed)

end Generator

end Multidialect
