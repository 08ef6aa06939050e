import Multidialect.Proofs.Files.Sources
import Multidialect.Proofs.Generation.Confinement
import Multidialect.Proofs.Generation.Failure

/-! # Planning again

A run writes to the directories of the selected dialects alone if the directory of extra modules is
written as a subdirectory (`PlainTarget`). What it reads lies outside of them if the manifest's input
directories do (`InputsOutside`). Files with an extension cannot be in the way: no directory of a dialect is called
like one. So trees that agree outside these directories hold the same templates and extra modules
(`sameInputs_of_agree`, `sameInputs_of_change`), and where barrels are not read, two runs from them that
plan their files plan the same ones (`plans_unique`).
-/

namespace Multidialect

open Path (IsName Component)

namespace Generator

variable {g : Generator} {o : GenerateOptions} {ds : List Dialect} {d : Dialect} {dir : Path}
  {base : Location} {t t' : FileTree} {keep : Bool}

/-! ## Where extra modules go -/

/-- The directory of extra modules is written as a subdirectory, without `..`. -/
def PlainTarget (g : Generator) : Prop :=
  g.manifest.generator.extrasTarget.isAbsolute = false ∧
    .up ∉ g.manifest.generator.extrasTarget.steps

instance (g : Generator) : Decidable g.PlainTarget := inferInstanceAs (Decidable (_ ∧ _))

theorem ups_foldl_step {cs : List Component} (h : .up ∉ cs) {route : Route} (hr : route.ups = 0) :
    (cs.foldl Route.step route).ups = 0 := by
  induction cs generalizing route with
  | nil => exact hr
  | cons c cs ih =>
    refine ih (fun hm => h (.tail _ hm)) ?_
    cases c with
    | up => exact absurd (.head _) h
    | root => rfl
    | here => exact hr
    | name s => exact hr

theorem extrasStay_of_plain (h : g.PlainTarget) (hd : d ∈ ds) : g.ExtrasStay ds base d :=
  extrasStay_of_subdirectory hd h.1 fun _ hfront =>
    ups_foldl_step (fun hm => h.2 (((List.mem_inits _ _).1 hfront).subset hm)) rfl

/-! ## The input directories -/

/-- The directories that a run reads are not at or below the directories of some dialects. -/
def InputsOutside (g : Generator) (ds : List Dialect) (base : Location) : Prop :=
  ∀ d ∈ ds, ∀ dir ∈ g.manifest.inputDirs,
    ¬ (g.dialectDir d).resolve base <+: (g.root.join dir).resolve base

instance (g : Generator) (ds : List Dialect) (base : Location) : Decidable (g.InputsOutside ds base) :=
  inferInstanceAs (Decidable (∀ d ∈ ds, ∀ dir ∈ g.manifest.inputDirs, _))

theorem mem_inputDirs_templates (g : Generator) :
    g.manifest.generator.templates ∈ g.manifest.inputDirs := .head _

theorem mem_inputDirs_extras (h : (g.manifest.profile d).extras = some dir) :
    dir ∈ g.manifest.inputDirs :=
  .tail _ (List.mem_filterMap.2 ⟨_, Manifest.mem_profiles _ d, h⟩)

/-- A file with an extension in an input directory is in no directory of a dialect. -/
theorem not_inside_input (hin : g.InputsOutside ds base) (hdir : dir ∈ g.manifest.inputDirs)
    {n : String} (hext : (fileExtension? n).isSome) :
    ¬ g.Inside ds base ((g.root.join dir).resolve base ++ [n]) := by
  rintro ⟨d, hd, hpre⟩
  rcases List.prefix_concat_iff.1 hpre with he | hpre
  · rw [Path.resolve, steps_dialectDir, List.foldl_append] at he
    have hname : d.name = n := by
      simpa using congrArg List.getLast? (show _ ++ [d.name] = _ ++ [n] from he)
    exact ne_dialect_of_extension hext d hname.symm
  · exact hin d hd dir hdir hpre

/-- The same files are in the input directories. -/
def SameInputs (g : Generator) (t t' : FileTree) : Prop :=
  ∀ dir ∈ g.manifest.inputDirs, FileTree.SameFiles t t' ((g.root.join dir).resolve t.current)

/-- Trees that agree outside the directories of some dialects. -/
structure AgreeOutside (g : Generator) (ds : List Dialect) (t t' : FileTree) : Prop where
  current : t'.current = t.current
  get? : ∀ l, ¬ g.Inside ds t.current l → t'.get? l = t.get? l

theorem sameInputs_of_agree (hin : g.InputsOutside ds t.current) (h : g.AgreeOutside ds t t') :
    g.SameInputs t t' := by
  intro dir hdir n content hext
  rw [h.get? _ (not_inside_input hin hdir hext)]

/-- A run that is confined keeps its inputs. -/
theorem sameInputs_of_change (hin : g.InputsOutside ds t.current)
    (h : FileTree.Change (g.Inside ds t.current) (g.OnWay ds t.current) t t') : g.SameInputs t t' := by
  intro dir hdir n content hext
  rcases h.get? _ (not_inside_input hin hdir hext) with he | ⟨-, hn, hd⟩
  · rw [he]
  · simp [hn, hd]

/-! ## Loading and planning -/

/-- The same templates are loaded wherever the path of their directory leads. -/
theorem loadTemplates_again (ht : t.WellFormed) (ht' : t'.WellFormed)
    (hcur : t'.current = t.current) (hsame : g.SameInputs t t') (hdir : dir ∈ g.manifest.inputDirs)
    {extensions : List String} {xs : List Template}
    (h : t.loadTemplates (g.root.join dir) extensions = .ok xs) (hlead : t'.Leads (g.root.join dir)) :
    t'.loadTemplates (g.root.join dir) extensions = .ok xs := by
  obtain ⟨htext, hlead₀⟩ := FileTree.leads_of_loadTemplates h
  rw [FileTree.loadTemplates_congr ht ht' hcur htext hlead₀ hlead (hsame dir hdir), h]

theorem plan_congr {modules : List GeneratedModule}
    (h : ∀ d ∈ ds, g.planExtras d keep t' = g.planExtras d keep t) :
    g.plan modules ds keep t' = g.plan modules ds keep t := by
  unfold plan
  rw [mapM_congr fun d hd => ?_]
  unfold planDialect
  rw [h d hd]

/-- Barrels that are not read do not matter. -/
theorem planExtras_congr
    (h : ∀ dir, (g.manifest.profile d).extras = some dir →
      t'.loadTemplates (g.root.join dir) g.manifest.generator.extensions =
        t.loadTemplates (g.root.join dir) g.manifest.generator.extensions) :
    g.planExtras d false t' = g.planExtras d false t := by
  unfold planExtras
  cases he : (g.manifest.profile d).extras with
  | none => rfl
  | some dir => simp only [h dir he, startBarrel, Bool.false_and, Bool.false_eq_true, if_false]

/-- A dialect whose files are planned has loaded its extra modules. -/
theorem loaded_of_plan {modules : List GeneratedModule} {r : FileRegistry}
    (h : g.plan modules ds keep t = .ok r) (hd : d ∈ ds)
    (hdir : (g.manifest.profile d).extras = some dir) :
    ∃ xs, t.loadTemplates (g.root.join dir) g.manifest.generator.extensions = .ok xs := by
  obtain ⟨files, hpd, -⟩ := mem_plan_of_planDialect h hd
  obtain ⟨extras, he, -⟩ := planDialect_eq_ok hpd
  rcases planExtras_eq_ok he with ⟨hnone, -⟩ | ⟨dir', xs, -, hsome, hxs, -⟩
  · rw [hnone] at hdir
    cases hdir
  · obtain rfl := Option.some.inj (hdir.symm.trans hsome)
    exact ⟨xs, hxs⟩

/-- **The plan of a run is that of another one** from the same inputs, where barrels are not read. -/
theorem plans_unique (ht : t.WellFormed) (ht' : t'.WellFormed) (hcur : t'.current = t.current)
    (hsame : g.SameInputs t t') (hkeep : o.keepExisting = false) {ts ts' : List Template}
    {r r' : FileRegistry} (h : g.Plans o t ts r) (h' : g.Plans o t' ts' r') :
    ts' = ts ∧ r' = r := by
  obtain ⟨-, hlead⟩ := FileTree.leads_of_loadTemplates h'.loaded
  have hts : g.loadTemplates t' = .ok ts :=
    loadTemplates_again ht ht' hcur hsame (mem_inputDirs_templates g) h.loaded hlead
  obtain rfl := Except.ok.inj (h'.loaded.symm.trans hts)
  have hplan : g.plan (g.render ts' (Dialect.selected o.dialects)).modules
      (Dialect.selected o.dialects) o.keepExisting t' = .ok r := by
    rw [← h.planned, hkeep]
    refine plan_congr fun d hd => planExtras_congr fun dir hdir => ?_
    obtain ⟨xs, hxs⟩ := loaded_of_plan h.planned hd hdir
    obtain ⟨xs', hxs'⟩ := loaded_of_plan h'.planned hd hdir
    rw [hxs]
    exact loadTemplates_again ht ht' hcur hsame (mem_inputDirs_extras hdir) hxs
      (FileTree.leads_of_loadTemplates hxs').2
  exact ⟨rfl, Except.ok.inj (h'.planned.symm.trans hplan)⟩

end Generator

end Multidialect
