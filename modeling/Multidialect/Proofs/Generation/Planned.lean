import Multidialect.Generation.Generate
import Multidialect.Proofs.Files.Loaded
import Multidialect.Proofs.Manifest.Accepted

/-! # Which files are planned

The files of a dialect are its stub, its modules, and, if it has extra modules, these and their
barrel (`planDialect_eq_ok`, `planExtras_eq_ok`). Stubs and modules go to the directory of the
dialect (`steps_target_own`), extra modules and the barrel to the directory that is written behind
it in the settings (`steps_target_extra`).
-/

namespace Multidialect

open Path (IsName Component)

/-- The steps of a barrel's name; it may also be `.` or `..`. -/
theorem Path.steps_of_no_slash {s : String} (hne : s.toList ≠ []) (hs : '/' ∉ s.toList) :
    (Path.mk s).isAbsolute = false ∧
      (IsName s ∧ (Path.mk s).steps = [.name s] ∨ (Path.mk s).steps = [] ∨
        (Path.mk s).steps = [.up]) := by
  by_cases hhere : s.toList = ['.']
  · obtain rfl : s = "." := String.toList_inj.1 hhere
    exact ⟨by decide, .inr (.inl (by decide))⟩
  by_cases hup : s.toList = ['.', '.']
  · obtain rfl : s = ".." := String.toList_inj.1 hup
    exact ⟨by decide, .inr (.inr (by decide))⟩
  have hn : IsName s := ⟨hne, hhere, hup, hs⟩
  exact ⟨isAbsolute_of_isName hn, .inl ⟨hn, steps_name hn⟩⟩

namespace Generator

variable {g : Generator} {t : FileTree}

/-- The directory of a dialect's extra modules. -/
def extrasDir (g : Generator) (d : Dialect) : Path :=
  (g.dialectDir d).join g.manifest.generator.extrasTarget

/-- The steps of the full path of a planned file. -/
def targetSteps (g : Generator) (f : PlannedFile) : List Component := (g.outputDir.join f.path).steps

/-! ## Where files go -/

theorem steps_dialectDir (g : Generator) (d : Dialect) :
    (g.dialectDir d).steps = g.outputDir.steps ++ [.name d.name] :=
  Path.steps_child _ (Path.isName_dialect d)

theorem steps_target_own (g : Generator) (d : Dialect) {s : String} (hs : IsName s) :
    (g.outputDir.join ((Path.mk d.name).child s)).steps = (g.dialectDir d).steps ++ [.name s] := by
  rw [Path.child, Path.steps_join_join, ← Path.steps_child _ hs]
  rfl

theorem steps_target_extra (g : Generator) (d : Dialect) {s : String}
    (hs : (Path.mk s).isAbsolute = false) :
    (g.outputDir.join (((Path.mk d.name).join g.manifest.generator.extrasTarget).child s)).steps =
      (g.extrasDir d).steps ++ (Path.mk s).steps := by
  rw [Path.child, Path.steps_join_join, Path.steps_join _ hs, Path.steps_join_join]
  rfl

/-! ## What is planned -/

/-- The file of an extra module. -/
def extraFile (g : Generator) (d : Dialect) (x : Template) : PlannedFile :=
  .ofCategory .extra
    (((Path.mk d.name).join g.manifest.generator.extrasTarget).child x.fileName) x.source

/-- The file of a barrel. -/
def barrelFile (g : Generator) (d : Dialect) (text : String) : PlannedFile :=
  .ofCategory .barrel
    (((Path.mk d.name).join g.manifest.generator.extrasTarget).child g.manifest.generator.barrel)
    text

theorem planModules_eq_ok {modules : List GeneratedModule} {d : Dialect} {files : List PlannedFile}
    (h : g.planModules modules d = .ok files) :
    files = (modules.filter (·.dialect == d)).map fun x =>
      .ofCategory .generated x.path x.content := by
  refine mapM_eq_map (fun x f hf => ?_) h
  obtain ⟨_, -, hf⟩ := bind_eq_ok.1 hf
  exact (pure_eq_ok.1 hf).symm

/-- The path of a dialect's barrel. -/
def barrelPath (g : Generator) (d : Dialect) : Path :=
  g.outputDir.join (((Path.mk d.name).join g.manifest.generator.extrasTarget).child
    g.manifest.generator.barrel)

/-- The modules that a dialect's barrel exports. -/
def exported (g : Generator) (xs : List Template) : List Text :=
  (xs.filter (·.fileName != g.manifest.generator.barrel)).map (·.name.toList)

/-- The text of a dialect's barrel. -/
def barrelText (g : Generator) (start : Barrel) (xs : List Template) : String :=
  String.ofList (start.appendAll (g.exported xs)).render

/-- **The extra files of a dialect that has some**: the extra modules that are not called like the
barrel, and the barrel, which is that to start from with these modules added. -/
theorem planExtras_eq_ok_iff {d : Dialect} {dir : Path} {keep : Bool}
    (hdir : (g.manifest.profile d).extras = some dir)
    {files : List PlannedFile} :
    g.planExtras d keep t = .ok files ↔
      ∃ start xs, startBarrel keep (g.barrelPath d) t = .ok start ∧
        t.loadTemplates (g.root.join dir) g.manifest.generator.extensions = .ok xs ∧
        files = (xs.filter (·.fileName != g.manifest.generator.barrel)).map (g.extraFile d) ++
          [g.barrelFile d (g.barrelText start xs)] := by
  unfold planExtras
  simp only [hdir, bind_eq_ok, mapError_eq_ok, pure_eq_ok]
  constructor
  · rintro ⟨start, hs, xs, hxs, rfl⟩
    exact ⟨start, xs, hs, hxs, rfl⟩
  · rintro ⟨start, xs, hs, hxs, rfl⟩
    exact ⟨start, hs, xs, hxs, rfl⟩

/-- **The extra files of a dialect**: none, or its extra modules that are not called like the barrel,
and the barrel. -/
theorem planExtras_eq_ok {d : Dialect} {keep : Bool} {files : List PlannedFile}
    (h : g.planExtras d keep t = .ok files) :
    (g.manifest.profile d).extras = none ∧ files = [] ∨
      ∃ dir xs text, (g.manifest.profile d).extras = some dir ∧
        t.loadTemplates (g.root.join dir) g.manifest.generator.extensions = .ok xs ∧
        files = (xs.filter (·.fileName != g.manifest.generator.barrel)).map (g.extraFile d) ++
          [g.barrelFile d text] := by
  cases he : (g.manifest.profile d).extras with
  | none =>
    unfold planExtras at h
    simp only [he] at h
    exact .inl ⟨rfl, (Except.ok.inj h).symm⟩
  | some dir =>
    obtain ⟨start, xs, -, hxs, rfl⟩ := (planExtras_eq_ok_iff he).1 h
    exact .inr ⟨dir, xs, _, rfl, hxs, rfl⟩

/-- **The files of a dialect.** -/
theorem planDialect_eq_ok {modules : List GeneratedModule} {keep : Bool} {d : Dialect}
    {files : List PlannedFile} (h : g.planDialect modules keep t d = .ok files) :
    ∃ extras, g.planExtras d keep t = .ok extras ∧
      files = g.planStub d ++ ((modules.filter (·.dialect == d)).map fun x =>
        .ofCategory .generated x.path x.content) ++ extras := by
  obtain ⟨own, hown, h⟩ := bind_eq_ok.1 h
  obtain ⟨extras, he, h⟩ := bind_eq_ok.1 h
  obtain rfl := planModules_eq_ok hown
  exact ⟨extras, he, (pure_eq_ok.1 h).symm⟩

theorem plan_eq_ok {modules : List GeneratedModule} {ds : List Dialect} {keep : Bool}
    {r : FileRegistry} (h : g.plan modules ds keep t = .ok r) :
    ∃ files, ds.mapM (g.planDialect modules keep t) = .ok files ∧ r.files = files.flatten := by
  obtain ⟨files, hf, h⟩ := bind_eq_ok.1 h
  obtain rfl := pure_eq_ok.1 h
  exact ⟨files, hf, rfl⟩

/-- A planned file is one of a dialect. -/
theorem planDialect_of_mem_plan {modules : List GeneratedModule} {ds : List Dialect} {keep : Bool}
    {r : FileRegistry} (h : g.plan modules ds keep t = .ok r) {f : PlannedFile} (hf : f ∈ r.files) :
    ∃ d ∈ ds, ∃ files, g.planDialect modules keep t d = .ok files ∧ f ∈ files := by
  obtain ⟨files, hfiles, hr⟩ := plan_eq_ok h
  obtain ⟨fs, hfs, hf⟩ := List.mem_flatten.1 (hr ▸ hf)
  obtain ⟨d, hd, hpd⟩ := exists_of_mem_mapM hfiles hfs
  exact ⟨d, hd, fs, hpd, hf⟩

/-- The files of each dialect are planned. -/
theorem mem_plan_of_planDialect {modules : List GeneratedModule} {ds : List Dialect} {keep : Bool}
    {r : FileRegistry} (h : g.plan modules ds keep t = .ok r) {d : Dialect} (hd : d ∈ ds) :
    ∃ files, g.planDialect modules keep t d = .ok files ∧ ∀ f ∈ files, f ∈ r.files := by
  obtain ⟨files, hfiles, hr⟩ := plan_eq_ok h
  obtain ⟨fs, hfs, hpd⟩ := exists_mem_of_mapM hfiles hd
  exact ⟨fs, hpd, fun f hf => hr ▸ List.mem_flatten.2 ⟨fs, hfs, hf⟩⟩

end Generator

end Multidialect
