import Multidialect.Proofs.Generation.Planned
import Multidialect.Proofs.Generation.Runs

/-! # Runs that fail

A run is given up early if the templates cannot be loaded, a pair cannot be rendered or the files
cannot be planned (`EarlyFailure`). Until then nothing is changed: every run is given up early or
plans its files (`earlyFailure_or_plans`), and a run that plans its files either is a dry run or goes
on to prepare directories and write files (`generate_of_plans`). An error tells which kind of run it
ends. Loading and planning only look at files (`EarlyFailure.not_ofChange`), preparing and writing
only fail at changing them (`changes_of_writeOut`), and planning never meets a gated module, since
rendering asks the same gate (`allows_of_mem_modules`).
-/

namespace Multidialect

/-- Whether a task changes files; the other tasks look at them. -/
def FileTask.changes : FileTask → Bool
  | .create | .write | .remove => true
  | .readDirectory | .readTemplate | .readBarrel => false

/-- An error at changing files. -/
def RunError.OfChange (e : RunError) : Prop := ∃ f, e = .files f ∧ f.task.changes = true

theorem FileFault.task_during {α : Type} {task : FileTask} {path : Path} {r : Except FileFault α}
    {e : FileError} (h : FileFault.during task path r = .error e) : e.task = task := by
  obtain ⟨fault, -, rfl⟩ := mapError_eq_error.1 h
  rfl

/-! ## Errors at looking -/

namespace FileTree

variable {t : FileTree}

theorem changes_of_loadTemplates {dir : Path} {extensions : List String} {e : FileError}
    (h : t.loadTemplates dir extensions = .error e) : e.task.changes = false := by
  rcases bind_eq_error.1 h with h | ⟨paths, -, h⟩
  · rcases bind_eq_error.1 h with h | ⟨entries, -, h⟩
    · rw [FileFault.task_during h]
      rfl
    · cases h
  · obtain ⟨p, -, h⟩ := exists_error_of_mapM h
    rcases bind_eq_error.1 h with h | ⟨source, -, h⟩
    · rw [FileFault.task_during h]
      rfl
    · cases h

/-! ## Errors at changing -/

theorem changes_of_writeBytes {p : Path} {content : ByteArray} {e : FileError}
    (h : (t.writeBytes p content).2 = .error e) : e.task.changes = true := by
  unfold writeBytes at h
  cases hw : FileFault.during .write p (t.write p content) with
  | ok t' => simp [hw] at h
  | error e' =>
    rw [hw] at h
    rw [← Except.error.inj h, FileFault.task_during hw]
    rfl

theorem changes_of_putBytes {p : Path} {content : ByteArray} {e : FileError}
    (h : (t.putBytes p content).2 = .error e) : e.task.changes = true := by
  unfold putBytes at h
  cases hp : p.parent? with
  | none =>
    simp only [hp] at h
    exact changes_of_writeBytes h
  | some parent =>
    simp only [hp] at h
    cases hc : FileFault.during .create parent (t.createDirs parent).2 with
    | ok u =>
      rw [hc] at h
      exact changes_of_writeBytes h
    | error e' =>
      rw [hc] at h
      rw [← Except.error.inj h, FileFault.task_during hc]
      rfl

theorem changes_of_clear {p : Path} {e : FileError} (h : t.clear p = .error e) :
    e.task.changes = true := by
  unfold clear at h
  split at h
  · rw [FileFault.task_during (map_eq_error.1 h)]
    rfl
  · cases h

end FileTree

theorem FileRegistry.changes_of_writeFiles {base : Path} {files : List PlannedFile} {t : FileTree}
    {e : FileError} (h : (writeFiles base files t).2 = .error e) : e.task.changes = true := by
  induction files generalizing t with
  | nil => cases h
  | cons f rest ih =>
    simp only [writeFiles] at h
    split at h
    · exact ih (map_eq_error.1 h)
    · cases hput : t.put (base.join f.path) f.content with
      | mk t₁ r =>
        rw [hput] at h
        cases r with
        | ok u => exact ih (map_eq_error.1 h)
        | error e' =>
          obtain rfl := Except.error.inj h
          rw [FileTree.put] at hput
          exact FileTree.changes_of_putBytes (congrArg Prod.snd hput)

namespace Generator

variable {g : Generator} {o : GenerateOptions} {t : FileTree}

theorem changes_of_prepareDirs {keepExisting : Bool} {ds : List Dialect} {e : FileError}
    (h : (g.prepareDirs keepExisting ds t).2 = .error e) : e.task.changes = true := by
  induction ds generalizing t with
  | nil => cases h
  | cons d rest ih =>
    simp only [prepareDirs] at h
    split at h
    · rename_i hc
      obtain rfl := Except.error.inj h
      split at hc
      · cases hc
      · exact FileTree.changes_of_clear hc
    · rename_i t' gone hc
      cases hr : t'.createDirs (g.dialectDir d) with
      | mk t'' r =>
        rw [hr] at h
        cases r with
        | error fault =>
          obtain rfl := Except.error.inj h
          rfl
        | ok u => exact ih (map_eq_error.1 h)

/-- **Preparing directories and writing files** only fail at changing something. -/
theorem changes_of_writeOut {keepExisting : Bool} {ds : List Dialect} {r : FileRegistry}
    {e : FileError} (h : (g.writeOut keepExisting ds r t).2 = .error e) : e.task.changes = true := by
  unfold writeOut at h
  cases hp : g.prepareDirs keepExisting ds t with
  | mk t' result =>
    rw [hp] at h
    cases result with
    | error e' =>
      obtain rfl := Except.error.inj h
      exact changes_of_prepareDirs (congrArg Prod.snd hp)
    | ok cleared => exact FileRegistry.changes_of_writeFiles (map_eq_error.1 h)

/-! ## Errors at planning -/

/-- Every module that is rendered is let through by the gate. -/
theorem allows_of_mem_modules {ts : List Template} {ds : List Dialect} {x : GeneratedModule}
    (h : x ∈ (g.render ts ds).modules) : g.manifest.allows x.template x.dialect = true := by
  rw [modules_render] at h
  obtain ⟨d, -, h⟩ := List.mem_flatMap.1 h
  obtain ⟨tpl, -, h⟩ := List.mem_filterMap.1 h
  obtain ⟨hd, hname, -, ha⟩ := g.moduleOf?_eq_some h
  rwa [hd, hname]

theorem planModules_ne_error {ts : List Template} {ds : List Dialect} {d : Dialect} {e : RunError} :
    g.planModules (g.render ts ds).modules d ≠ .error e := by
  intro h
  obtain ⟨x, hx, h⟩ := exists_error_of_mapM h
  obtain ⟨hx, hd⟩ := List.mem_filter.1 hx
  have ha := allows_of_mem_modules hx
  rw [beq_iff_eq.1 hd] at ha
  simp only [ensureAllowed, ha, if_true] at h
  cases h

theorem planExtras_eq_error {d : Dialect} {keep : Bool} {e : RunError}
    (h : g.planExtras d keep t = .error e) : ∃ f, e = .files f ∧ f.task.changes = false := by
  unfold planExtras at h
  split at h
  · cases h
  · rcases bind_eq_error.1 h with h | ⟨start, -, h⟩
    · obtain ⟨f, hf, rfl⟩ := mapError_eq_error.1 h
      refine ⟨f, rfl, ?_⟩
      unfold startBarrel at hf
      split at hf
      · rw [FileFault.task_during (map_eq_error.1 hf)]
        rfl
      · cases hf
    · rcases bind_eq_error.1 h with h | ⟨xs, -, h⟩
      · obtain ⟨f, hf, rfl⟩ := mapError_eq_error.1 h
        exact ⟨f, rfl, FileTree.changes_of_loadTemplates hf⟩
      · cases h

/-- **Planning what was rendered** only fails at looking at extra modules or a barrel. -/
theorem plan_eq_error {ts : List Template} {ds ds' : List Dialect} {keep : Bool} {e : RunError}
    (h : g.plan (g.render ts ds').modules ds keep t = .error e) :
    ∃ f, e = .files f ∧ f.task.changes = false := by
  rcases bind_eq_error.1 h with h | ⟨files, -, h⟩
  · obtain ⟨d, -, h⟩ := exists_error_of_mapM h
    rcases bind_eq_error.1 h with h | ⟨own, -, h⟩
    · exact absurd h planModules_ne_error
    · rcases bind_eq_error.1 h with h | ⟨extras, -, h⟩
      · exact planExtras_eq_error h
      · cases h
  · cases h

/-! ## All runs -/

/-- An error for which a run is given up before anything is changed. -/
inductive EarlyFailure (g : Generator) (o : GenerateOptions) (t : FileTree) : RunError → Prop
  | loading {e : FileError} (h : g.loadTemplates t = .error e) : EarlyFailure g o t (.files e)
  | rendering {ts : List Template} (hts : g.loadTemplates t = .ok ts)
      (h : (g.render ts (Dialect.selected o.dialects)).failures ≠ []) :
      EarlyFailure g o t
        (.generationFailed (g.render ts (Dialect.selected o.dialects)).failures)
  | planning {ts : List Template} {e : RunError} (hts : g.loadTemplates t = .ok ts)
      (hfail : (g.render ts (Dialect.selected o.dialects)).failures = [])
      (h : g.plan (g.render ts (Dialect.selected o.dialects)).modules
        (Dialect.selected o.dialects) o.keepExisting t = .error e) : EarlyFailure g o t e

/-- What a run with given pairs and planned files reports. -/
def report (o : GenerateOptions) (rendered : Rendered) (r : FileRegistry) (cleared : List Path)
    (stats : WriteStats) : GenerateOutcome :=
  ⟨o.dryRun, r.inOrder, rendered.gated, cleared, stats, rendered.diagnostics⟩

/-- A run that is not given up early: the templates, and the files that are planned. -/
structure Plans (g : Generator) (o : GenerateOptions) (t : FileTree) (ts : List Template)
    (r : FileRegistry) : Prop where
  loaded : g.loadTemplates t = .ok ts
  rendered : (g.render ts (Dialect.selected o.dialects)).failures = []
  planned : g.plan (g.render ts (Dialect.selected o.dialects)).modules
    (Dialect.selected o.dialects) o.keepExisting t = .ok r

theorem generate_of_earlyFailure {e : RunError} (h : g.EarlyFailure o t e) :
    g.generate o t = (t, .error e) := by
  unfold generate generateWith
  cases h with
  | loading h => simp only [h]
  | rendering hts h => simp only [hts, renderWith_nil, if_pos h]
  | planning hts hfail h => simp only [hts, renderWith_nil, hfail, h, ne_eq, not_true, if_false]

theorem generate_of_plans {ts : List Template} {r : FileRegistry} (h : g.Plans o t ts r) :
    g.generate o t =
      if o.dryRun then
        (t, .ok (report o (g.render ts (Dialect.selected o.dialects)) r (g.wouldClear o t) .none))
      else
        let written := g.writeOut o.keepExisting (Dialect.selected o.dialects) r t
        (written.1, (written.2.mapError .files).map fun (cleared, stats) =>
          report o (g.render ts (Dialect.selected o.dialects)) r cleared stats) := by
  unfold generate generateWith
  simp only [h.loaded, renderWith_nil, h.rendered, h.planned, ne_eq, not_true, if_false]
  split
  · rfl
  · cases g.writeOut o.keepExisting (Dialect.selected o.dialects) r t with
    | mk t' result => cases result <;> rfl

/-- **A run that succeeds** has planned its files, prepared the directories, and written the files. -/
theorem generate_eq_ok_iff (hdry : o.dryRun = false) {t' : FileTree} {outcome : GenerateOutcome} :
    g.generate o t = (t', .ok outcome) ↔
      ∃ ts r t₁ cleared stats, g.Plans o t ts r ∧
        g.prepareDirs o.keepExisting (Dialect.selected o.dialects) t = (t₁, .ok cleared) ∧
        r.writeAll g.outputDir t₁ = (t', .ok stats) ∧
        outcome = report o (g.render ts (Dialect.selected o.dialects)) r cleared stats := by
  constructor
  · intro h
    obtain ⟨ts, r, hts, hfail, hplan, -, -⟩ := generate_eq_ok h
    have hplans : g.Plans o t ts r := ⟨hts, hfail, hplan⟩
    rw [generate_of_plans hplans, hdry, if_neg Bool.false_ne_true] at h
    obtain ⟨rfl, hout⟩ := Prod.mk.inj h
    obtain ⟨⟨cleared, stats⟩, hw, rfl⟩ := map_eq_ok.1 hout
    have hw := mapError_eq_ok.1 hw
    unfold writeOut at hw ⊢
    generalize hp : g.prepareDirs o.keepExisting (Dialect.selected o.dialects) t = prepared at hw ⊢
    obtain ⟨t₁, result⟩ := prepared
    cases result with
    | error e => cases hw
    | ok cleared' =>
      obtain ⟨stats', hs, he⟩ := map_eq_ok.1 hw
      obtain ⟨rfl, rfl⟩ := Prod.mk.inj he
      exact ⟨ts, r, t₁, cleared', stats', hplans, rfl, Prod.ext rfl hs, rfl⟩
  · rintro ⟨ts, r, t₁, cleared, stats, hplans, hp, hw, rfl⟩
    rw [generate_of_plans hplans, hdry, if_neg Bool.false_ne_true]
    simp [writeOut, hp, hw, Except.map, Except.mapError]

/-- **Every run** is given up early, or plans its files. -/
theorem earlyFailure_or_plans (g : Generator) (o : GenerateOptions) (t : FileTree) :
    (∃ e, g.EarlyFailure o t e) ∨ ∃ ts r, g.Plans o t ts r := by
  cases hts : g.loadTemplates t with
  | error e => exact .inl ⟨_, .loading hts⟩
  | ok ts =>
    by_cases hfail : (g.render ts (Dialect.selected o.dialects)).failures = []
    · cases hplan : g.plan (g.render ts (Dialect.selected o.dialects)).modules
          (Dialect.selected o.dialects) o.keepExisting t with
      | error e => exact .inl ⟨e, .planning hts hfail hplan⟩
      | ok r => exact .inr ⟨ts, r, hts, hfail, hplan⟩
    · exact .inl ⟨_, .rendering hts hfail⟩

theorem generate_of_dryRun (hdry : o.dryRun = true) : (g.generate o t).1 = t := by
  rcases earlyFailure_or_plans g o t with ⟨e, h⟩ | ⟨ts, r, h⟩
  · rw [generate_of_earlyFailure h]
  · rw [generate_of_plans h, if_pos hdry]

/-- What a run is given up early for is no change, and no gated module. -/
theorem EarlyFailure.not_ofChange {e : RunError} (h : g.EarlyFailure o t e) :
    ¬ e.OfChange ∧ ∀ name d, e ≠ .gatedWrite name d := by
  have hlook : ∀ f : FileError, e = .files f → f.task.changes = false →
      ¬ e.OfChange ∧ ∀ name d, e ≠ .gatedWrite name d := by
    rintro f rfl hf
    refine ⟨?_, by simp⟩
    rintro ⟨f', he, hf'⟩
    rw [← RunError.files.inj he, hf] at hf'
    cases hf'
  cases h with
  | loading h => exact hlook _ rfl (FileTree.changes_of_loadTemplates h)
  | rendering hts h =>
    refine ⟨?_, by simp⟩
    rintro ⟨f, he, -⟩
    cases he
  | planning hts hfail h =>
    obtain ⟨f, he, hf⟩ := plan_eq_error h
    exact hlook f he hf

/-- **A run that fails early leaves the tree as it is**, and so does a dry run. The error of a run
tells whether it failed early: it did unless the error is one at changing files. A module is never
refused by the gate when it is planned. -/
theorem early_failure_atomic (g : Generator) (o : GenerateOptions) (t : FileTree) :
    (∀ e, g.EarlyFailure o t e → g.generate o t = (t, .error e)) ∧
    (o.dryRun = true → (g.generate o t).1 = t) ∧
    ∀ e, (g.generate o t).2 = .error e →
      (g.EarlyFailure o t e ↔ ¬ e.OfChange) ∧ ∀ name d, e ≠ .gatedWrite name d := by
  refine ⟨fun e => generate_of_earlyFailure, generate_of_dryRun, fun e he => ?_⟩
  rcases earlyFailure_or_plans g o t with ⟨e', h⟩ | ⟨ts, r, h⟩
  · rw [generate_of_earlyFailure h] at he
    obtain rfl := Except.error.inj he
    exact ⟨⟨fun _ => h.not_ofChange.1, fun _ => h⟩, h.not_ofChange.2⟩
  · -- the run fails at writing
    have hchange : e.OfChange := by
      rw [generate_of_plans h] at he
      split at he
      · cases he
      · obtain ⟨f, hf, rfl⟩ := mapError_eq_error.1 (map_eq_error.1 he)
        exact ⟨f, rfl, changes_of_writeOut hf⟩
    refine ⟨⟨fun h => absurd hchange h.not_ofChange.1, absurd hchange⟩, ?_⟩
    rintro name d rfl
    obtain ⟨f, hf, -⟩ := hchange
    cases hf

end Generator

end Multidialect
