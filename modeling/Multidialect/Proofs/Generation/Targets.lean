import Multidialect.Proofs.Generation.Pairs
import Multidialect.Proofs.Generation.Planned
import Mathlib.Data.List.Nodup
import Mathlib.Data.List.Pairwise

/-! # Where planned files go

The targets of all planned files, dialect by dialect (`targetSteps_plan`): each dialect has its own
directory for its stub and modules, and its extra modules and barrel go to the directory of extra
modules. Nothing checks that these are apart from the others, so a planned file may take the place
of another one (`plan_targets_distinct_iff` says exactly when, `extra_replaces_module` is a case).
-/

namespace Multidialect

open Path (IsName Component)

/-! ## Lists without repetition -/

section

variable {α β : Type}

theorem pairwise_iff_of_nodup {R : α → α → Prop} [Std.Symm R] {as : List α} (h : as.Nodup) :
    as.Pairwise R ↔ ∀ a ∈ as, ∀ b ∈ as, a ≠ b → R a b :=
  ⟨fun hp _ ha _ hb hne => hp.forall ha hb hne, h.pairwise_of_forall_ne⟩

/-- A list that is put together from two parts for each element. -/
theorem nodup_flatMap_append {as : List α} (h : as.Nodup) (own more : α → List β) :
    (as.flatMap fun a => own a ++ more a).Nodup ↔
      (∀ a ∈ as, (own a).Nodup ∧ (more a).Nodup) ∧
      (∀ a ∈ as, ∀ b ∈ as, a ≠ b → (own a).Disjoint (own b) ∧ (more a).Disjoint (more b)) ∧
      ∀ a ∈ as, ∀ b ∈ as, (own a).Disjoint (more b) := by
  have : Std.Symm (Function.onFun List.Disjoint fun a => own a ++ more a) :=
    ⟨fun _ _ hd => List.disjoint_symm hd⟩
  rw [List.nodup_flatMap, pairwise_iff_of_nodup h]
  simp only [List.nodup_append', Function.onFun, List.disjoint_append_left,
    List.disjoint_append_right]
  constructor
  · rintro ⟨hin, hbetween⟩
    refine ⟨fun a ha => ⟨(hin a ha).1, (hin a ha).2.1⟩, fun a ha b hb hne => ?_, fun a ha b hb => ?_⟩
    · obtain ⟨⟨ho, -⟩, -, hm⟩ := hbetween a ha b hb hne
      exact ⟨ho, hm⟩
    · by_cases he : a = b
      · exact he ▸ (hin a ha).2.2
      · exact (hbetween a ha b hb he).2.1
  · rintro ⟨hin, hbetween, hcross⟩
    refine ⟨fun a ha => ⟨(hin a ha).1, (hin a ha).2, hcross a ha a ha⟩, fun a ha b hb hne => ?_⟩
    obtain ⟨ho, hm⟩ := hbetween a ha b hb hne
    exact ⟨⟨ho, List.disjoint_symm (hcross b hb a ha)⟩, hcross a ha b hb, hm⟩

end

namespace Generator

variable {g : Generator} {ts : List Template} {ds : List Dialect} {t : FileTree}

/-! ## The names of a dialect's files -/

/-- The file names of the modules of a dialect. -/
def moduleNames (g : Generator) (ts : List Template) (d : Dialect) : List String :=
  (ts.filter fun x => (g.moduleOf? d x).isSome).map (·.fileName)

/-- The names of the files in the directory of a dialect: the stub, if there is one, and the
modules. -/
def ownNames (g : Generator) (ts : List Template) (d : Dialect) : List String :=
  (if g.manifest.generator.tsconfig then ["tsconfig.json"] else []) ++ g.moduleNames ts d

/-- Whether a dialect has a directory of extra modules. -/
def hasExtras (g : Generator) (d : Dialect) : Bool := (g.manifest.profile d).extras.isSome

/-- The file names of the extra modules that are planned for a dialect. -/
def extraNames (g : Generator) (t : FileTree) (d : Dialect) : List String :=
  match (g.manifest.profile d).extras.map fun dir =>
    t.loadTemplates (g.root.join dir) g.manifest.generator.extensions with
  | some (.ok xs) => (xs.map (·.fileName)).filter (· != g.manifest.generator.barrel)
  | _ => []

/-- The targets in the directory of a dialect. -/
def ownTargets (g : Generator) (ts : List Template) (d : Dialect) : List (List Component) :=
  (g.ownNames ts d).map fun n => (g.dialectDir d).steps ++ [.name n]

/-- The steps to a dialect's barrel. -/
def barrelSteps (g : Generator) (d : Dialect) : List Component :=
  (g.extrasDir d).steps ++ (Path.mk g.manifest.generator.barrel).steps

/-- The targets in the directory of a dialect's extra modules. -/
def extraTargets (g : Generator) (t : FileTree) (d : Dialect) : List (List Component) :=
  if g.hasExtras d then
    (g.extraNames t d).map (fun n => (g.extrasDir d).steps ++ [.name n]) ++ [g.barrelSteps d]
  else []

/-- What keeps the targets of planned files apart. -/
structure Separate (g : Generator) (ts : List Template) (ds : List Dialect) (t : FileTree) :
    Prop where
  /-- No module is called like the stub. -/
  stub : g.manifest.generator.tsconfig = true → ∀ d ∈ ds, "tsconfig.json" ∉ g.moduleNames ts d
  /-- Dialects do not share a directory of extra modules. -/
  dirs : ∀ d ∈ ds, ∀ d' ∈ ds, g.hasExtras d = true → g.hasExtras d' = true →
    (g.extrasDir d).steps = (g.extrasDir d').steps → d = d'
  /-- Extra modules that go to the directory of a dialect are not called like a file there. -/
  extras : ∀ d ∈ ds, ∀ d' ∈ ds, (g.extrasDir d).steps = (g.dialectDir d').steps →
    ∀ n ∈ g.extraNames t d, n ∉ g.ownNames ts d'
  /-- No barrel stands where a stub or a module does. -/
  barrel : ∀ d ∈ ds, ∀ d' ∈ ds, g.hasExtras d = true →
    ∀ n ∈ g.ownNames ts d', g.barrelSteps d ≠ (g.dialectDir d').steps ++ [.name n]

/-! ## The targets of a plan -/

theorem map_targetSteps_planStub (d : Dialect) :
    (g.planStub d).map g.targetSteps =
      (if g.manifest.generator.tsconfig then ["tsconfig.json"] else []).map fun n =>
        (g.dialectDir d).steps ++ [.name n] := by
  simp only [planStub]
  split
  · exact congrArg (fun steps => [steps]) (steps_target_own g d (by decide))
  · rfl

theorem map_targetSteps_modules (hnames : ∀ x ∈ ts, IsName x.fileName) (d : Dialect) :
    (ts.filterMap (g.moduleOf? d)).map (fun x =>
        g.targetSteps (.ofCategory .generated x.path x.content)) =
      (g.moduleNames ts d).map fun n => (g.dialectDir d).steps ++ [.name n] := by
  induction ts with
  | nil => rfl
  | cons x ts ih =>
    have ih := ih fun y hy => hnames y (.tail _ hy)
    unfold moduleNames at ih ⊢
    cases hx : g.moduleOf? d x with
    | none => simpa [hx] using ih
    | some y =>
      have htarget : g.targetSteps (.ofCategory .generated y.path y.content) =
          (g.dialectDir d).steps ++ [.name x.fileName] := by
        rw [targetSteps, PlannedFile.ofCategory, (g.moduleOf?_eq_some hx).2.2.1]
        exact steps_target_own g d (hnames x (.head _))
      simpa [hx, htarget] using ih

theorem map_targetSteps_planExtras (hm : g.manifest.Valid) (ht : t.WellFormed) {d : Dialect}
    {keep : Bool} {files : List PlannedFile} (h : g.planExtras d keep t = .ok files) :
    files.map g.targetSteps = g.extraTargets t d := by
  unfold extraTargets hasExtras extraNames
  rcases planExtras_eq_ok h with ⟨hnone, rfl⟩ | ⟨dir, xs, text, hsome, hxs, rfl⟩
  · simp [hnone]
  · have hrel := (Path.steps_of_no_slash hm.barrel.1 hm.barrel.2).1
    simp only [hsome, Option.isSome_some, if_true, Option.map_some, hxs, List.map_append,
      List.map_map, List.filter_map, List.map_cons, List.map_nil]
    refine congrArg₂ (· ++ ·) ?_ ?_
    · refine List.map_congr_left fun x hx => ?_
      have hn := ((FileTree.loadTemplates_eq_ok ht hxs).2 x (List.mem_filter.1 hx).1).1
      simp only [Function.comp_apply]
      rw [← Path.steps_name hn]
      exact steps_target_extra g d (Path.isAbsolute_of_isName hn)
    · exact congrArg (fun steps => [steps]) (steps_target_extra g d hrel)

/-- **The targets of a plan**: for each dialect, those in its directory and those in the directory of
its extra modules. -/
theorem targetSteps_plan (hm : g.manifest.Valid) (ht : t.WellFormed)
    (hnames : ∀ x ∈ ts, IsName x.fileName) (hds : ds.Nodup) {keep : Bool} {r : FileRegistry}
    (h : g.plan (g.render ts ds).modules ds keep t = .ok r) :
    r.files.map g.targetSteps = ds.flatMap fun d => g.ownTargets ts d ++ g.extraTargets t d := by
  obtain ⟨files, hfiles, hr⟩ := plan_eq_ok h
  rw [hr]
  refine map_flatten_mapM hfiles fun d hd fs hfs => ?_
  obtain ⟨extras, he, rfl⟩ := planDialect_eq_ok hfs
  rw [filter_modules_render, List.count_eq_one_of_mem hds hd, List.replicate_one,
    List.flatten_singleton, List.map_append, List.map_append, map_targetSteps_planStub,
    List.map_map, map_targetSteps_planExtras hm ht he, ownTargets, ownNames, List.map_append]
  congr 2
  exact map_targetSteps_modules hnames d

/-! ## Targets apart -/

theorem append_name_inj {a b : List Component} {n n' : String} :
    a ++ [.name n] = b ++ [.name n'] ↔ a = b ∧ n = n' := by
  refine ⟨fun h => ?_, by rintro ⟨rfl, rfl⟩; rfl⟩
  obtain ⟨ha, hn⟩ := List.append_inj' h rfl
  exact ⟨ha, by simpa using hn⟩

theorem steps_dialectDir_inj {d d' : Dialect} :
    (g.dialectDir d).steps = (g.dialectDir d').steps ↔ d = d' := by
  rw [steps_dialectDir, steps_dialectDir, append_name_inj, Dialect.name_inj]
  simp

theorem nodup_moduleNames (hdist : (ts.map (·.fileName)).Nodup) (d : Dialect) :
    (g.moduleNames ts d).Nodup := (List.filter_sublist.map _).nodup hdist

theorem nodup_ownTargets_iff (hdist : (ts.map (·.fileName)).Nodup) {d : Dialect} :
    (g.ownTargets ts d).Nodup ↔
      (g.manifest.generator.tsconfig = true → "tsconfig.json" ∉ g.moduleNames ts d) := by
  rw [ownTargets, List.nodup_map_iff fun n n' h => (append_name_inj.1 h).2, ownNames]
  cases g.manifest.generator.tsconfig with
  | true => simp [nodup_moduleNames hdist]
  | false => simp [nodup_moduleNames hdist]

theorem disjoint_ownTargets {d d' : Dialect} (h : d ≠ d') :
    (g.ownTargets ts d).Disjoint (g.ownTargets ts d') := by
  intro s hs hs'
  obtain ⟨n, -, rfl⟩ := List.mem_map.1 hs
  obtain ⟨n', -, he⟩ := List.mem_map.1 hs'
  exact h (steps_dialectDir_inj.1 (append_name_inj.1 he).1.symm)

theorem mem_extraTargets {d : Dialect} {s : List Component} :
    s ∈ g.extraTargets t d ↔
      (∃ n ∈ g.extraNames t d, (g.extrasDir d).steps ++ [.name n] = s) ∨
        g.hasExtras d = true ∧ s = g.barrelSteps d := by
  unfold extraTargets
  cases he : g.hasExtras d with
  | true => simp
  | false =>
    have hnone : (g.manifest.profile d).extras = none := by simpa [hasExtras] using he
    simp [extraNames, hnone]

/-- No extra module is called like the barrel. -/
theorem ne_barrelSteps (hm : g.manifest.Valid) {d : Dialect} {n : String}
    (h : n ∈ g.extraNames t d) : (g.extrasDir d).steps ++ [.name n] ≠ g.barrelSteps d := by
  have hne : n ≠ g.manifest.generator.barrel := by
    unfold extraNames at h
    split at h
    · simpa using (List.mem_filter.1 h).2
    · cases h
  rw [barrelSteps, Ne, List.append_cancel_left_eq]
  rcases (Path.steps_of_no_slash hm.barrel.1 hm.barrel.2).2 with ⟨-, hs⟩ | hs | hs <;> rw [hs]
  · simpa using hne
  · simp
  · simp

theorem nodup_extraTargets (hm : g.manifest.Valid) (ht : t.WellFormed) (d : Dialect) :
    (g.extraTargets t d).Nodup := by
  unfold extraTargets
  split
  · have hn : (g.extraNames t d).Nodup := by
      unfold extraNames
      split
      · rename_i xs hxs
        obtain ⟨dir, -, hload⟩ := Option.map_eq_some_iff.1 hxs
        exact (FileTree.loadTemplates_eq_ok ht hload).1.filter _
      · exact List.nodup_nil
    rw [← List.concat_eq_append, List.nodup_concat]
    refine ⟨fun hmem => ?_, (List.nodup_map_iff fun n n' h => (append_name_inj.1 h).2).2 hn⟩
    obtain ⟨n, hn, he⟩ := List.mem_map.1 hmem
    exact ne_barrelSteps hm hn he
  · exact List.nodup_nil

theorem length_extrasDir (d d' : Dialect) :
    (g.extrasDir d).steps.length = (g.extrasDir d').steps.length := by
  unfold extrasDir
  cases he : g.manifest.generator.extrasTarget.isAbsolute with
  | true => rw [Path.join_of_isAbsolute _ he, Path.join_of_isAbsolute _ he]
  | false => simp [Path.steps_join _ he, steps_dialectDir]

/-- An extra module only stands where another dialect's barrel does if both share a directory. -/
theorem extrasDir_eq_of_barrel (hm : g.manifest.Valid) {d d' : Dialect} {n : String}
    (h : (g.extrasDir d).steps ++ [.name n] = g.barrelSteps d') :
    (g.extrasDir d).steps = (g.extrasDir d').steps := by
  unfold barrelSteps at h
  rcases (Path.steps_of_no_slash hm.barrel.1 hm.barrel.2).2 with ⟨-, hs⟩ | hs | hs <;> rw [hs] at h
  · exact (append_name_inj.1 h).1
  · have hlen := congrArg List.length h
    rw [List.append_nil, List.length_append, length_extrasDir d d'] at hlen
    simp at hlen
  · have hlast := congrArg List.getLast? h
    simp at hlast

theorem disjoint_extraTargets_iff (hm : g.manifest.Valid) {d d' : Dialect} :
    (g.extraTargets t d).Disjoint (g.extraTargets t d') ↔
      ¬ (g.hasExtras d = true ∧ g.hasExtras d' = true ∧
        (g.extrasDir d).steps = (g.extrasDir d').steps) := by
  constructor
  · rintro h ⟨hd, hd', he⟩
    refine h (mem_extraTargets.2 (.inr ⟨hd, rfl⟩)) (mem_extraTargets.2 (.inr ⟨hd', ?_⟩))
    rw [barrelSteps, he, ← barrelSteps]
  · intro h s hs hs'
    have hex : ∀ {d : Dialect} {s : List Component}, s ∈ g.extraTargets t d →
        g.hasExtras d = true := by
      intro d s hs
      unfold extraTargets at hs
      split at hs
      · assumption
      · cases hs
    refine h ⟨hex hs, hex hs', ?_⟩
    rcases mem_extraTargets.1 hs with ⟨n, -, rfl⟩ | ⟨-, rfl⟩
    · rcases mem_extraTargets.1 hs' with ⟨n', -, he⟩ | ⟨-, he⟩
      · exact (append_name_inj.1 he).1.symm
      · exact extrasDir_eq_of_barrel hm he
    · rcases mem_extraTargets.1 hs' with ⟨n', -, he⟩ | ⟨-, he⟩
      · exact (extrasDir_eq_of_barrel hm he).symm
      · exact List.append_cancel_right he

theorem disjoint_own_extraTargets_iff {d d' : Dialect} :
    (g.ownTargets ts d').Disjoint (g.extraTargets t d) ↔
      ((g.extrasDir d).steps = (g.dialectDir d').steps →
        ∀ n ∈ g.extraNames t d, n ∉ g.ownNames ts d') ∧
      (g.hasExtras d = true →
        ∀ n ∈ g.ownNames ts d', g.barrelSteps d ≠ (g.dialectDir d').steps ++ [.name n]) := by
  constructor
  · intro h
    refine ⟨fun he n hn hown => ?_, fun hd n hown he => ?_⟩
    · exact h (List.mem_map_of_mem hown) (mem_extraTargets.2 (.inl ⟨n, hn, by rw [he]⟩))
    · exact h (List.mem_map_of_mem hown) (mem_extraTargets.2 (.inr ⟨hd, he.symm⟩))
  · rintro ⟨hextras, hbarrel⟩ s hs hs'
    obtain ⟨n, hown, rfl⟩ := List.mem_map.1 hs
    rcases mem_extraTargets.1 hs' with ⟨n', hn, he⟩ | ⟨hd, he⟩
    · obtain ⟨hdir, rfl⟩ := append_name_inj.1 he
      exact hextras hdir n' hn hown
    · exact hbarrel hd n hown he.symm

/-- A subdirectory for extra modules keeps them apart, if the barrel has a name and no module is called
like the stub. -/
theorem separate_of_subdirectory
    (hrel : g.manifest.generator.extrasTarget.isAbsolute = false)
    (hne : g.manifest.generator.extrasTarget.steps ≠ []) (hb : IsName g.manifest.generator.barrel)
    (hstub : g.manifest.generator.tsconfig = true →
      ∀ d ∈ ds, "tsconfig.json" ∉ g.moduleNames ts d) : g.Separate ts ds t := by
  have hsteps : ∀ d, (g.extrasDir d).steps =
      (g.dialectDir d).steps ++ g.manifest.generator.extrasTarget.steps :=
    fun d => Path.steps_join _ hrel
  have hdir : ∀ d d', (g.extrasDir d).steps ≠ (g.dialectDir d').steps := by
    intro d d' he
    have hlen := congrArg List.length he
    rw [hsteps, steps_dialectDir, steps_dialectDir] at hlen
    simp at hlen
    exact hne hlen
  refine ⟨hstub, fun d _ d' _ _ _ he => ?_, fun d _ d' _ he => absurd he (hdir d d'),
    fun d _ d' _ _ n _ he => ?_⟩
  · rw [hsteps, hsteps] at he
    exact steps_dialectDir_inj.1 (List.append_cancel_right he)
  · rw [barrelSteps, Path.steps_name hb] at he
    exact hdir d d' (append_name_inj.1 he).1

/-- **When planned files have different targets**, compared step by step: exactly if no module is
called like the stub, no two dialects share a directory of extra modules, and extra modules and
barrels stand nowhere in place of a stub or a module. -/
theorem plan_targets_distinct_iff {text fileName : String} {m : Manifest}
    (h : Manifest.read text fileName = .ok m) (root : Path) {ts : List Template}
    (hnames : ∀ x ∈ ts, IsName x.fileName) (hdist : (ts.map (·.fileName)).Nodup)
    {ds : List Dialect} (hds : ds.Nodup) {t : FileTree} (ht : t.WellFormed) {keep : Bool}
    {r : FileRegistry}
    (hr : plan ⟨m, root⟩ (render ⟨m, root⟩ ts ds).modules ds keep t = .ok r) :
    (r.files.map (targetSteps ⟨m, root⟩)).Nodup ↔ Separate ⟨m, root⟩ ts ds t := by
  have hm := Manifest.valid_of_read h
  rw [targetSteps_plan (g := ⟨m, root⟩) hm ht hnames hds hr, nodup_flatMap_append hds]
  simp only [nodup_ownTargets_iff hdist, disjoint_extraTargets_iff (g := ⟨m, root⟩) hm,
    disjoint_own_extraTargets_iff]
  constructor
  · rintro ⟨hin, hbetween, hcross⟩
    refine ⟨fun hts d hd => (hin d hd).1 hts, fun d hd d' hd' he he' hdir => ?_,
      fun d hd d' hd' => (hcross d' hd' d hd).1, fun d hd d' hd' => (hcross d' hd' d hd).2⟩
    by_cases hne : d = d'
    · exact hne
    · exact absurd ⟨he, he', hdir⟩ (hbetween d hd d' hd' hne).2
  · rintro ⟨hstub, hdirs, hextras, hbarrel⟩
    refine ⟨fun d hd => ⟨fun hts => hstub hts d hd, nodup_extraTargets (g := ⟨m, root⟩) hm ht d⟩,
      fun d hd d' hd' hne => ⟨disjoint_ownTargets hne, fun ⟨he, he', hdir⟩ => ?_⟩,
      fun d' hd' d hd => ⟨hextras d hd d' hd', hbarrel d hd d' hd'⟩⟩
    exact hne (hdirs d hd d' hd' he he' hdir)

/-- With the directory of extra modules that is built in, a module and an extra module of the same
name are apart. -/
theorem plan_targets_distinct_functions :
    ∃ m : Manifest, Manifest.read "[dialects.pg]\nextras = \"extras\"\n" "dialectic.toml" = .ok m ∧
      ∃ r, plan ⟨m, ⟨"."⟩⟩ (render ⟨m, ⟨"."⟩⟩ [.ofSource "count.ts" "template"] [.pg]).modules [.pg]
          false (FileTree.empty.put ⟨"extras/count.ts"⟩ "extra").1 = .ok r ∧
        (r.files.map (targetSteps ⟨m, ⟨"."⟩⟩)).Nodup := by
  let m : Manifest := { Manifest.standard with
    dialects := [(.pg, { Overrides.nothing with extras := some ⟨"extras"⟩ })] }
  have h : Manifest.read "[dialects.pg]\nextras = \"extras\"\n" "dialectic.toml" = .ok m :=
    ok_of_toOption (by decide +kernel)
  obtain ⟨r, hr⟩ : ∃ r, plan ⟨m, ⟨"."⟩⟩ (render ⟨m, ⟨"."⟩⟩ [.ofSource "count.ts" "template"]
      [.pg]).modules [.pg] false (FileTree.empty.put ⟨"extras/count.ts"⟩ "extra").1 = .ok r :=
    exists_ok_of_toOption (by decide +kernel)
  refine ⟨m, h, r, hr, ?_⟩
  exact (plan_targets_distinct_iff h ⟨"."⟩ (by decide) (by decide) (by decide) (by decide +kernel)
    hr).2 (separate_of_subdirectory (by decide +kernel) (by decide +kernel) (by decide +kernel)
      fun _ => by decide +kernel)

/-- A manifest whose extra modules go to the directories of the dialects themselves. -/
def shared : String :=
  "[generator]\nextras_target = \".\"\n[dialects.pg]\nextras = \"extras\"\n"

/-- **A planned file may take the place of another one**: an extra module is written over a module of
the same name. -/
theorem extra_replaces_module :
    ∃ m : Manifest, Manifest.read shared "dialectic.toml" = .ok m ∧
      ∃ t : FileTree, t.WellFormed ∧
        (∃ r, plan ⟨m, ⟨"."⟩⟩ (render ⟨m, ⟨"."⟩⟩ [.ofSource "count.ts" "template"] [.pg]).modules
            [.pg] false t = .ok r ∧ ¬ (r.files.map (targetSteps ⟨m, ⟨"."⟩⟩)).Nodup) ∧
        t.get? ["work", "src", "dialect", "count.ts"] = some (.file "template".toUTF8) ∧
        (generate ⟨m, ⟨"."⟩⟩ ⟨[.pg], false, false⟩ t).1.get? ["work", "src", "pg", "count.ts"] =
          some (.file "extra".toUTF8) := by
  let m : Manifest := { Manifest.standard with
    generator := { GeneratorSettings.standard with extrasTarget := ⟨"."⟩ }
    dialects := [(.pg, { Overrides.nothing with extras := some ⟨"extras"⟩ })] }
  let t : FileTree :=
    ((FileTree.empty.put ⟨"src/dialect/count.ts"⟩ "template").1.put ⟨"extras/count.ts"⟩ "extra").1
  have hplan : (plan ⟨m, ⟨"."⟩⟩ (render ⟨m, ⟨"."⟩⟩ [.ofSource "count.ts" "template"] [.pg]).modules
      [.pg] false t).toOption.map (fun r => decide (r.files.map (targetSteps ⟨m, ⟨"."⟩⟩)).Nodup) =
        some false := by decide +kernel
  obtain ⟨r, hr, hdup⟩ := Option.map_eq_some_iff.1 hplan
  exact ⟨m, ok_of_toOption (by decide +kernel), t, by decide +kernel,
    ⟨r, ok_of_toOption hr, of_decide_eq_false hdup⟩, by decide +kernel, by decide +kernel⟩

end Generator

end Multidialect
