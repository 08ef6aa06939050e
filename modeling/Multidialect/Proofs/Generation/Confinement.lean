import Multidialect.Proofs.Generation.Pairs
import Multidialect.Proofs.Generation.Planned
import Multidialect.Proofs.Generation.Runs
import Mathlib.Data.List.Infix

/-! # Where a run writes

A run clears and writes the directories of the selected dialects, and makes those that are missing on
the way to them. Stubs and modules always go there. Extra modules go where the settings say, which
is checked nowhere: if the directory of extra modules stays in the directories of the selected
dialects, the whole run does (`generate_confined`); if it does not, the extra modules are written
elsewhere (`extra_overwrites_template` is a case).
-/

namespace Multidialect

open Path (IsName Component)

namespace Generator

variable {g : Generator} {ds : List Dialect} {base : Location} {t : FileTree}

/-- At or below the directory of one of the dialects. -/
def Inside (g : Generator) (ds : List Dialect) (base l : Location) : Prop :=
  ∃ d ∈ ds, (g.dialectDir d).resolve base <+: l

instance (g : Generator) (ds : List Dialect) (base l : Location) : Decidable (g.Inside ds base l) :=
  inferInstanceAs (Decidable (∃ d ∈ ds, _ <+: l))

/-- Passed on the way to the directory of one of the dialects. -/
def OnWay (g : Generator) (ds : List Dialect) (base l : Location) : Prop :=
  ∃ d ∈ ds, (g.dialectDir d).Passes base l

/-- The way to a dialect's extra modules leads through the directories of the dialects and those
above them, and ends inside. -/
def ExtrasStay (g : Generator) (ds : List Dialect) (base : Location) (d : Dialect) : Prop :=
  (∀ l, (g.extrasDir d).Passes base l → g.Inside ds base l ∨ g.OnWay ds base l) ∧
    g.Inside ds base ((g.extrasDir d).resolve base)

/-- A planned file whose path leads through the directories of the dialects and those above them, and
ends inside. A path that ends in `..` leads to no file. -/
structure Confined (g : Generator) (ds : List Dialect) (base : Location) (f : PlannedFile) :
    Prop where
  ne_nil : g.targetSteps f ≠ []
  way : ∀ front, front <+: (g.targetSteps f).dropLast →
    g.Inside ds base (front.foldl FileTree.step base) ∨
      g.OnWay ds base (front.foldl FileTree.step base)
  target : (g.targetSteps f).getLast? ≠ some .up →
    g.Inside ds base ((g.targetSteps f).foldl FileTree.step base)

/-! ## Directories -/

theorem Inside.append {l : Location} (h : g.Inside ds base l) (s : Location) :
    g.Inside ds base (l ++ s) := by
  obtain ⟨d, hd, hpre⟩ := h
  exact ⟨d, hd, hpre.trans (List.prefix_append _ _)⟩

theorem onWay_front {d : Dialect} (hd : d ∈ ds) {front : List Component}
    (h : front <+: (g.dialectDir d).steps) : g.OnWay ds base (front.foldl FileTree.step base) :=
  ⟨d, hd, front, h, rfl⟩

/-- Preparing the directories of selected dialects is confined to them and the ways there. -/
theorem change_prepareDirs (ds : List Dialect) (ht : t.WellFormed) (keepExisting : Bool) :
    FileTree.Change (g.Inside ds t.current) (g.OnWay ds t.current) t
      (g.prepareDirs keepExisting ds t).1 := by
  refine prepareDirs_induct (.refl ht) (fun d hd t₁ t₂ gone h hc => ?_) fun d hd t₁ h => ?_
  · refine h.trans ((FileTree.change_clear h.wellFormed hc).mono (fun l hl => ?_) fun _ hf => hf.elim)
    exact ⟨d, hd, h.current ▸ hl.1⟩
  · refine h.trans ((FileTree.change_createDirs h.wellFormed (g.dialectDir d)).mono
      (fun _ hf => hf.elim) fun l hl => ?_)
    exact .inr ⟨d, hd, h.current ▸ hl⟩

/-! ## Files -/

theorem change_put {f : PlannedFile} (ht : t.WellFormed) (hf : g.Confined ds t.current f) :
    FileTree.Change (g.Inside ds t.current) (g.OnWay ds t.current) t
      (t.put (g.outputDir.join f.path) f.content).1 := by
  rcases List.eq_nil_or_concat (g.targetSteps f) with he | ⟨cs, c, he⟩
  · exact absurd he hf.ne_nil
  · rw [List.concat_eq_append] at he
    have hway := hf.way
    have htarget := hf.target
    rw [he, List.dropLast_concat] at hway
    rw [he, List.getLast?_concat, ← he] at htarget
    rw [FileTree.put]
    exact FileTree.change_putBytes ht he _ hway fun hup => htarget (by simpa using hup)

/-- Writing confined files is confined. -/
theorem change_writeFiles (ht : t.WellFormed) (files : List PlannedFile)
    (hf : ∀ f ∈ files, g.Confined ds t.current f) :
    FileTree.Change (g.Inside ds t.current) (g.OnWay ds t.current) t
      (FileRegistry.writeFiles g.outputDir files t).1 := by
  refine FileRegistry.writeFiles_induct (.refl ht) fun f hm t₁ h => ?_
  have hput : g.Confined ds t₁.current f → _ := change_put h.wellFormed
  rw [h.current] at hput
  exact h.trans (hput (hf f hm))

/-! ## Planned files -/

/-- A file that stands in the directory of a dialect is confined. -/
theorem confined_own {f : PlannedFile} {d : Dialect} (hd : d ∈ ds) {s : String}
    (h : g.targetSteps f = (g.dialectDir d).steps ++ [.name s]) : g.Confined ds base f := by
  refine ⟨by simp [h], fun front hfront => ?_, fun _ => ⟨d, hd, ?_⟩⟩
  · rw [h, List.dropLast_concat] at hfront
    exact .inr (onWay_front hd hfront)
  · rw [h, List.foldl_append]
    exact List.prefix_append _ _

theorem steps_extrasDir_ne_nil (g : Generator) (d : Dialect) : (g.extrasDir d).steps ≠ [] := by
  cases he : g.manifest.generator.extrasTarget.isAbsolute with
  | true =>
    intro hn
    have hroot := (Path.isAbsolute_iff_head _).1 he
    rw [extrasDir, Path.join_of_isAbsolute _ he] at hn
    rw [hn] at hroot
    cases hroot
  | false => simp [extrasDir, Path.steps_join _ he, steps_dialectDir]

/-- A file behind the directory of a dialect's extra modules is confined if these stay. -/
theorem confined_extra {f : PlannedFile} {d : Dialect} (hstay : g.ExtrasStay ds base d) {s : String}
    (h : g.targetSteps f = (g.extrasDir d).steps ++ [.name s]) : g.Confined ds base f := by
  refine ⟨by simp [h], fun front hfront => ?_, fun _ => ?_⟩
  · rw [h, List.dropLast_concat] at hfront
    exact hstay.1 _ ⟨front, hfront, rfl⟩
  · rw [h, List.foldl_append]
    exact hstay.2.append [s]

theorem targetSteps_barrelFile (hm : g.manifest.Valid) (d : Dialect) (text : String) :
    g.targetSteps (g.barrelFile d text) =
      (g.extrasDir d).steps ++ (Path.mk g.manifest.generator.barrel).steps :=
  steps_target_extra g d (Path.steps_of_no_slash hm.barrel.1 hm.barrel.2).1

/-- A barrel is confined if the extra modules stay, whatever its name is. -/
theorem confined_barrel (hm : g.manifest.Valid) {d : Dialect} (hstay : g.ExtrasStay ds base d)
    (text : String) : g.Confined ds base (g.barrelFile d text) := by
  obtain ⟨-, hs⟩ := Path.steps_of_no_slash hm.barrel.1 hm.barrel.2
  have htarget := targetSteps_barrelFile hm d text
  have hway : ∀ front, front <+: (g.extrasDir d).steps →
      g.Inside ds base (front.foldl FileTree.step base) ∨
        g.OnWay ds base (front.foldl FileTree.step base) :=
    fun front hfront => hstay.1 _ ⟨front, hfront, rfl⟩
  rcases hs with ⟨-, hs⟩ | hs | hs
  · exact confined_extra hstay (htarget.trans (by rw [hs]))
  · -- the barrel would be the directory itself
    rw [hs, List.append_nil] at htarget
    refine ⟨htarget ▸ steps_extrasDir_ne_nil g d, fun front hfront => ?_, fun _ => ?_⟩
    · exact hway front (hfront.trans (htarget ▸ List.dropLast_prefix _))
    · rw [htarget]
      exact hstay.2
  · refine ⟨by simp [htarget, hs], fun front hfront => ?_, fun hup => ?_⟩
    · rw [htarget, hs, List.dropLast_concat] at hfront
      exact hway front hfront
    · rw [htarget, hs, List.getLast?_concat] at hup
      exact absurd rfl hup

/-- The stubs of a dialect stand in its directory. -/
theorem targetSteps_of_mem_planStub {d : Dialect} {f : PlannedFile} (h : f ∈ g.planStub d) :
    g.targetSteps f = (g.dialectDir d).steps ++ [.name "tsconfig.json"] := by
  simp only [planStub] at h
  split at h
  · obtain rfl := List.mem_singleton.1 h
    exact steps_target_own g d (by decide)
  · cases h

theorem targetSteps_extraFile (d : Dialect) {x : Template} (hn : IsName x.fileName) :
    g.targetSteps (g.extraFile d x) = (g.extrasDir d).steps ++ [.name x.fileName] := by
  rw [← Path.steps_name hn]
  exact steps_target_extra g d (Path.isAbsolute_of_isName hn)

/-- A planned file stands in the directory of its dialect, or in that of the extra modules, or it is
the barrel. -/
theorem mem_planDialect (ht : t.WellFormed) {ts : List Template}
    (hnames : ∀ x ∈ ts, IsName x.fileName) {sel : List Dialect} {d : Dialect} {keep : Bool}
    {files : List PlannedFile} (h : g.planDialect (g.render ts sel).modules keep t d = .ok files)
    {f : PlannedFile} (hf : f ∈ files) :
    (∃ s, g.targetSteps f = (g.dialectDir d).steps ++ [.name s]) ∨
      (g.manifest.profile d).extras.isSome ∧
        ((∃ s, g.targetSteps f = (g.extrasDir d).steps ++ [.name s]) ∨
          ∃ text, f = g.barrelFile d text) := by
  obtain ⟨extras, he, rfl⟩ := planDialect_eq_ok h
  rcases List.mem_append.1 hf with hf | hf
  · left
    rcases List.mem_append.1 hf with hf | hf
    · exact ⟨_, targetSteps_of_mem_planStub hf⟩
    · obtain ⟨x, hx, rfl⟩ := List.mem_map.1 hf
      obtain ⟨hx, hxd⟩ := List.mem_filter.1 hx
      rw [modules_render] at hx
      obtain ⟨d', -, hx⟩ := List.mem_flatMap.1 hx
      obtain ⟨tpl, htpl, hx⟩ := List.mem_filterMap.1 hx
      obtain ⟨hd', -, hpath, -⟩ := g.moduleOf?_eq_some hx
      obtain rfl : d' = d := by
        rw [← hd']
        exact beq_iff_eq.1 hxd
      refine ⟨tpl.fileName, ?_⟩
      rw [targetSteps, PlannedFile.ofCategory, hpath]
      exact steps_target_own g d' (hnames tpl htpl)
  · right
    rcases planExtras_eq_ok he with ⟨-, rfl⟩ | ⟨dir, xs, text, hsome, hxs, rfl⟩
    · cases hf
    · refine ⟨by simp [hsome], ?_⟩
      rcases List.mem_append.1 hf with hf | hf
      · obtain ⟨x, hx, rfl⟩ := List.mem_map.1 hf
        have hn := ((FileTree.loadTemplates_eq_ok ht hxs).2 x (List.mem_filter.1 hx).1).1
        exact .inl ⟨x.fileName, targetSteps_extraFile d hn⟩
      · exact .inr ⟨text, List.mem_singleton.1 hf⟩

section

variable {ts : List Template} {keep : Bool} {r : FileRegistry}

/-- The path of a planned file leads somewhere. -/
theorem targetSteps_ne_nil (hm : g.manifest.Valid) (ht : t.WellFormed)
    (hnames : ∀ x ∈ ts, IsName x.fileName)
    (h : g.plan (g.render ts ds).modules ds keep t = .ok r) {f : PlannedFile} (hf : f ∈ r.files) :
    g.targetSteps f ≠ [] := by
  obtain ⟨d, -, files, hpd, hf⟩ := planDialect_of_mem_plan h hf
  rcases mem_planDialect ht hnames hpd hf with ⟨s, hs⟩ | ⟨-, ⟨s, hs⟩ | ⟨text, rfl⟩⟩
  · simp [hs]
  · simp [hs]
  · rw [targetSteps_barrelFile hm]
    simp [steps_extrasDir_ne_nil]

/-- All planned files are confined if the extra modules stay. -/
theorem confined_of_mem_plan (hm : g.manifest.Valid) (ht : t.WellFormed)
    (hnames : ∀ x ∈ ts, IsName x.fileName)
    (hstay : ∀ d ∈ ds, (g.manifest.profile d).extras.isSome → g.ExtrasStay ds base d)
    (h : g.plan (g.render ts ds).modules ds keep t = .ok r) {f : PlannedFile} (hf : f ∈ r.files) :
    g.Confined ds base f := by
  obtain ⟨d, hd, files, hpd, hf⟩ := planDialect_of_mem_plan h hf
  rcases mem_planDialect ht hnames hpd hf with ⟨s, hs⟩ | ⟨hsome, ⟨s, hs⟩ | ⟨text, rfl⟩⟩
  · exact confined_own hd hs
  · exact confined_extra (hstay d hd hsome) hs
  · exact confined_barrel hm (hstay d hd hsome) text

end

/-! ## Runs -/

theorem change_writeOut (ht : t.WellFormed) (keepExisting : Bool) {r : FileRegistry}
    (hf : ∀ f ∈ r.files, g.Confined ds t.current f) :
    FileTree.Change (g.Inside ds t.current) (g.OnWay ds t.current) t
      (g.writeOut keepExisting ds r t).1 := by
  have hdirs := change_prepareDirs (g := g) ds ht keepExisting
  unfold writeOut
  cases hp : g.prepareDirs keepExisting ds t with
  | mk t' result =>
    rw [hp] at hdirs
    cases result with
    | error e => exact hdirs
    | ok cleared =>
      have hfiles := change_writeFiles hdirs.wellFormed r.inOrder fun f hm => by
        rw [hdirs.current]
        exact hf f ((sortBy_perm _ _).subset hm)
      rw [hdirs.current] at hfiles
      exact hdirs.trans hfiles

/-- A run is confined if the extra modules of every selected dialect stay. -/
theorem change_generate (hm : g.manifest.Valid) (ht : t.WellFormed) (o : GenerateOptions)
    (hds : ds = Dialect.selected o.dialects)
    (hstay : ∀ d ∈ ds, (g.manifest.profile d).extras.isSome → g.ExtrasStay ds t.current d) :
    FileTree.Change (g.Inside ds t.current) (g.OnWay ds t.current) t (g.generate o t).1 := by
  unfold generate generateWith
  rw [← hds]
  cases hts : g.loadTemplates t with
  | error e => exact .refl ht
  | ok ts =>
    have hnames : ∀ x ∈ ts, IsName x.fileName := fun x hx =>
      ((FileTree.loadTemplates_eq_ok ht hts).2 x hx).1
    simp only [renderWith_nil]
    split
    · exact .refl ht
    · cases hplan : g.plan (g.render ts ds).modules ds o.keepExisting t with
      | error e => exact .refl ht
      | ok registry =>
        have hconfined : ∀ f ∈ registry.files, g.Confined ds t.current f :=
          fun f hf => confined_of_mem_plan hm ht hnames hstay hplan hf
        have hchange := change_writeOut ht o.keepExisting hconfined
        simp only
        split
        · exact .refl ht
        · cases hw : g.writeOut o.keepExisting ds registry t with
          | mk t' result =>
            rw [hw] at hchange
            cases result <;> exact hchange

/-! ## Where extra modules go -/

/-- Extra modules stay if their directory is written as a subdirectory: nowhere on the way is it
above the directory of the dialect. -/
theorem extrasStay_of_subdirectory {d : Dialect} (hd : d ∈ ds)
    (hrel : g.manifest.generator.extrasTarget.isAbsolute = false)
    (hups : ∀ front ∈ g.manifest.generator.extrasTarget.steps.inits,
      (front.foldl Route.step ⟨0, []⟩).ups = 0) : g.ExtrasStay ds base d := by
  have hsteps := Path.steps_join (g.dialectDir d) hrel
  have hinside : ∀ front, front <+: g.manifest.generator.extrasTarget.steps →
      g.Inside ds base (front.foldl FileTree.step ((g.dialectDir d).resolve base)) := by
    intro front hfront
    have hroot : ∀ c ∈ front, c ≠ .root := by
      rintro c hc rfl
      obtain ⟨cs, hs, hcs⟩ := Path.steps_root g.manifest.generator.extrasTarget
      have hs : g.manifest.generator.extrasTarget.steps = cs := by simpa [hrel] using hs
      exact hcs _ (hs ▸ hfront.subset hc) rfl
    have he := Path.foldl_step_eq hroot ((g.dialectDir d).resolve base) ⟨0, []⟩
    have hups := hups front ((List.mem_inits _ _).2 hfront)
    simp only [hups, Nat.sub_zero, List.take_length, List.append_nil] at he
    exact ⟨d, hd, he ▸ List.prefix_append _ _⟩
  refine ⟨?_, ?_⟩
  · rintro l ⟨front, hfront, rfl⟩
    rw [extrasDir, hsteps] at hfront
    rcases List.prefix_or_prefix_of_prefix hfront (List.prefix_append _ _) with hpre | ⟨rest, rfl⟩
    · exact .inr (onWay_front hd hpre)
    · rw [List.foldl_append]
      exact .inl (hinside rest ((List.prefix_append_right_inj _).1 hfront))
  · rw [extrasDir, Path.resolve, hsteps, List.foldl_append]
    exact hinside _ List.prefix_rfl

/-- An extra module is confined exactly if the extra modules of its dialect stay. -/
theorem confined_extraFile_iff {d : Dialect} {x : Template} (hn : IsName x.fileName)
    (hext : (fileExtension? x.fileName).isSome) :
    g.Confined ds base (g.extraFile d x) ↔ g.ExtrasStay ds base d := by
  have htarget := targetSteps_extraFile (g := g) d hn
  refine ⟨fun h => ⟨?_, ?_⟩, fun h => confined_extra h htarget⟩
  · rintro l ⟨front, hfront, rfl⟩
    exact h.way front (by rwa [htarget, List.dropLast_concat])
  · obtain ⟨d', hd', hpre⟩ := h.target (by simp [htarget])
    rw [htarget, List.foldl_append] at hpre
    rcases List.prefix_concat_iff.1 hpre with he | hpre
    · -- a file with an extension is no directory of a dialect
      rw [Path.resolve, steps_dialectDir, List.foldl_append] at he
      have hname : d'.name = x.fileName := by
        simpa using congrArg List.getLast? (show _ ++ [d'.name] = _ ++ [x.fileName] from he)
      exact absurd hname.symm (ne_dialect_of_extension hext d')
    · exact ⟨d', hd', hpre⟩

/-- A run that succeeds has written the extra modules where they go. -/
theorem isFile_extra_of_generate (hm : g.manifest.Valid) (ht : t.WellFormed) {o : GenerateOptions}
    {t' : FileTree} {outcome : GenerateOutcome} (h : g.generate o t = (t', .ok outcome))
    (hdry : o.dryRun = false) {d : Dialect} (hd : d ∈ Dialect.selected o.dialects) {dir : Path}
    {xs : List Template} (hdir : (g.manifest.profile d).extras = some dir)
    (hxs : t.loadTemplates (g.root.join dir) g.manifest.generator.extensions = .ok xs)
    {x : Template} (hx : x ∈ xs) (hb : x.fileName ≠ g.manifest.generator.barrel) :
    ∃ content, t'.get? ((g.extrasDir d).resolve t.current ++ [x.fileName]) =
      some (.file content) := by
  obtain ⟨ts, r, hts, -, hplan, -, hwritten⟩ := generate_eq_ok h
  obtain ⟨-, written, hw⟩ := hwritten.resolve_left fun he => by simp [hdry] at he
  have hnames : ∀ y ∈ ts, IsName y.fileName := fun y hy =>
    ((FileTree.loadTemplates_eq_ok ht hts).2 y hy).1
  -- the module is planned
  have hmem : g.extraFile d x ∈ r.files := by
    obtain ⟨files, hpd, hfiles⟩ := mem_plan_of_planDialect hplan hd
    obtain ⟨extras, he, rfl⟩ := planDialect_eq_ok hpd
    rcases planExtras_eq_ok he with ⟨hnone, -⟩ | ⟨dir', xs', text, hsome, hxs', rfl⟩
    · simp [hdir] at hnone
    · obtain rfl : dir = dir' := Option.some.inj (hdir.symm.trans hsome)
      obtain rfl : xs = xs' := Except.ok.inj (hxs.symm.trans hxs')
      refine hfiles _ (List.mem_append_right _ (List.mem_append_left _ ?_))
      exact List.mem_map_of_mem (List.mem_filter.2 ⟨hx, by simpa using hb⟩)
  -- and stays where it is written
  have hdirs := change_prepareDirs (g := g) (Dialect.selected o.dialects) ht o.keepExisting
  unfold writeOut at hw
  cases hp : g.prepareDirs o.keepExisting (Dialect.selected o.dialects) t with
  | mk t₁ result =>
    rw [hp] at hw hdirs
    cases result with
    | error e => cases (Prod.mk.inj hw).2
    | ok cleared =>
      obtain ⟨ht', hstats⟩ := Prod.mk.inj hw
      obtain ⟨stats, hs, -⟩ := map_eq_ok.1 hstats
      have hfile := (FileRegistry.isFile_writeFiles hdirs.wellFormed
        (fun f hf => targetSteps_ne_nil hm ht hnames hplan ((sortBy_perm _ _).subset hf))
        (Prod.ext ht' hs)).2 _ ((sortBy_perm _ _).symm.subset hmem) rfl
      rw [hdirs.current] at hfile
      have htarget := targetSteps_extraFile (g := g) d ((FileTree.loadTemplates_eq_ok ht hxs).2 x hx).1
      rw [targetSteps] at htarget
      rwa [Path.resolve, htarget, List.foldl_append] at hfile

/-- **When a run writes only where it may.** If the extra modules of every selected dialect stay, a
run changes nothing but what is in the directories of the selected dialects, and makes missing
directories on the way there. An extra module is written there exactly if those of its dialect
stay; and a run that succeeds has written it, there or elsewhere. -/
theorem generate_confined {text fileName : String} {m : Manifest}
    (h : Manifest.read text fileName = .ok m) (root : Path) {t : FileTree} (ht : t.WellFormed)
    (o : GenerateOptions) {ds : List Dialect} (hds : ds = Dialect.selected o.dialects) :
    ((∀ d ∈ ds, (m.profile d).extras.isSome → ExtrasStay ⟨m, root⟩ ds t.current d) →
      FileTree.Change (Inside ⟨m, root⟩ ds t.current) (OnWay ⟨m, root⟩ ds t.current) t
        (generate ⟨m, root⟩ o t).1) ∧
    ∀ d ∈ ds, ∀ (dir : Path) (xs : List Template), (m.profile d).extras = some dir →
      t.loadTemplates (root.join dir) m.generator.extensions = .ok xs →
      ∀ x ∈ xs, x.fileName ≠ m.generator.barrel →
        (Confined ⟨m, root⟩ ds t.current (extraFile ⟨m, root⟩ d x) ↔
          ExtrasStay ⟨m, root⟩ ds t.current d) ∧
        ∀ (t' : FileTree) (outcome : GenerateOutcome),
          generate ⟨m, root⟩ o t = (t', .ok outcome) → o.dryRun = false →
          ∃ content, t'.get? ((extrasDir ⟨m, root⟩ d).resolve t.current ++ [x.fileName]) =
            some (.file content) := by
  have hm := Manifest.valid_of_read h
  refine ⟨change_generate (g := ⟨m, root⟩) hm ht o hds, ?_⟩
  intro d hd dir xs hdir hxs x hx hb
  obtain ⟨hn, hext⟩ := (FileTree.loadTemplates_eq_ok ht hxs).2 x hx
  refine ⟨confined_extraFile_iff hn hext, fun t' outcome hrun hdry => ?_⟩
  exact isFile_extra_of_generate (g := ⟨m, root⟩) hm ht hrun hdry (hds ▸ hd) hdir hxs hx hb

/-- With the directory of extra modules that is built in, a run leaves a template as it is. -/
theorem generate_confined_functions :
    ∃ m : Manifest, Manifest.read "[dialects.pg]\nextras = \"extras\"\n" "dialectic.toml" = .ok m ∧
      (m.profile .pg).extras.isSome ∧
      ∃ t : FileTree, t.WellFormed ∧
        (generate ⟨m, ⟨"."⟩⟩ ⟨[.pg], false, false⟩ t).1.get? ["work", "src", "dialect", "count.ts"] =
          some (.file "template".toUTF8) := by
  let m : Manifest := { Manifest.standard with
    dialects := [(.pg, { Overrides.nothing with extras := some ⟨"extras"⟩ })] }
  let t : FileTree :=
    ((FileTree.empty.put ⟨"src/dialect/count.ts"⟩ "template").1.put ⟨"extras/count.ts"⟩ "extra").1
  have h : Manifest.read "[dialects.pg]\nextras = \"extras\"\n" "dialectic.toml" = .ok m :=
    ok_of_toOption (by decide +kernel)
  have ht : t.WellFormed := by decide +kernel
  have hchange := (generate_confined h ⟨"."⟩ ht ⟨[.pg], false, false⟩ rfl).1 fun d hd _ =>
    extrasStay_of_subdirectory (g := ⟨m, ⟨"."⟩⟩) hd (by decide +kernel) (by decide +kernel)
  exact ⟨m, h, by decide +kernel, t, ht,
    hchange.get?_file (by decide +kernel) (by decide +kernel)⟩

/-- A manifest whose extra modules go next to the directories of the dialects. -/
def astray : String :=
  "[generator]\nextras_target = \"../dialect\"\n[dialects.pg]\nextras = \"extras\"\n"

/-- **A run may overwrite a template**: an extra module takes its place. -/
theorem extra_overwrites_template :
    ∃ m : Manifest, Manifest.read astray "dialectic.toml" = .ok m ∧
      ∃ t : FileTree, t.WellFormed ∧
        ¬ Inside ⟨m, ⟨"."⟩⟩ [.pg] t.current ["work", "src", "dialect", "count.ts"] ∧
        t.get? ["work", "src", "dialect", "count.ts"] = some (.file "template".toUTF8) ∧
        (generate ⟨m, ⟨"."⟩⟩ ⟨[.pg], false, false⟩ t).1.get? ["work", "src", "dialect", "count.ts"] =
          some (.file "extra".toUTF8) := by
  refine ⟨{ Manifest.standard with
      generator := { GeneratorSettings.standard with extrasTarget := ⟨"../dialect"⟩ }
      dialects := [(.pg, { Overrides.nothing with extras := some ⟨"extras"⟩ })] },
    ok_of_toOption (by decide +kernel),
    ((FileTree.empty.put ⟨"src/dialect/count.ts"⟩ "template").1.put ⟨"extras/count.ts"⟩ "extra").1,
    by decide +kernel, by decide +kernel, by decide +kernel, by decide +kernel⟩

end Generator

end Multidialect
