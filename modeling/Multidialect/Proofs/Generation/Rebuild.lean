import Multidialect.Proofs.Files.Same
import Multidialect.Proofs.Generation.Prepared
import Multidialect.Proofs.Generation.Repeated
import Multidialect.Proofs.Generation.Written

/-! # Rebuilding the outputs

A run that does not keep what is there builds the directories of the selected dialects anew: whatever
they held before, they hold the planned files afterwards, and another run changes nothing. This is
so if the first directory is found by its path before anything is made (`FindsFirst`); if its path leads
through a directory that is missing, what stands there is not cleared, and stays
(`generate_rebuilds`, `rebuild_keeps_stale_file` is a case). The files are those that are planned
exactly if no stub's place is on the way to the output, where it would be a directory
(`StubsFree`).
-/

namespace Multidialect

open Path (IsName Component)

namespace FileTree

variable {t t' t₂ t₂' : FileTree} {inside onWay : Location → Prop}

/-- What is built anew from trees that agree elsewhere is the same. -/
theorem Rebuilt.same (h : Rebuilt inside onWay t t') (h₂ : Rebuilt inside onWay t₂ t₂')
    (hcur : t₂.current = t.current)
    (hget : ∀ l, ¬ onWay l → ¬ inside l → t₂.get? l = t.get? l) : Same t' t₂' := by
  refine ⟨h₂.current.trans (hcur.trans h.current.symm), fun l => ?_⟩
  by_cases hway : onWay l
  · rw [h.made l hway, h₂.made l hway]
  · by_cases hin : inside l
    · rw [h.gone l hway hin, h₂.gone l hway hin]
    · rw [h.kept l hway hin, h₂.kept l hway hin, hget l hway hin]

end FileTree

namespace Generator

variable {g : Generator} {o : GenerateOptions} {ds rest : List Dialect} {d : Dialect}
  {base l : Location} {t t' t₁ t₂ t₂' : FileTree} {r : FileRegistry} {cleared : List Path}
  {content : ByteArray} {keep : Bool}

/-! ## What rebuilding takes -/

/-- No stub's place is on the way to the output. -/
def StubsFree (g : Generator) (ds : List Dialect) (base : Location) : Prop :=
  g.manifest.generator.tsconfig = true →
    ∀ d ∈ ds, ¬ g.outputDir.Passes base (g.stubPlace d base)

instance (g : Generator) (ds : List Dialect) (base : Location) : Decidable (g.StubsFree ds base) :=
  inferInstanceAs (Decidable (_ → ∀ d ∈ ds, ¬ _))

/-- The files in the directories of some dialects are exactly these, each with the content that comes
last for its place. -/
def HoldsExactly (g : Generator) (ds : List Dialect) (files : List PlannedFile) (t : FileTree) :
    Prop :=
  ∀ l, g.Inside ds t.current l → ∀ content, t.get? l = some (.file content) ↔
    ∃ f, FileRegistry.lastAt g.outputDir t.current files l = some f ∧ content = f.content.toUTF8

/-! ## Where files go -/

/-- Files that were written are in the directories of the dialects. -/
theorem inside_of_written {modules : List GeneratedModule} (hplan : g.plan modules ds keep t = .ok r)
    (ht' : t'.WellFormed) {f : PlannedFile} (hf : f ∈ r.files)
    (hconfined : g.Confined ds t'.current f)
    (hthere : f.overwrite = .always → t'.Reaches (g.outputDir.join f.path) ∧
      ∃ content, t'.get? (f.place g.outputDir t'.current) = some (.file content)) :
    g.Inside ds t'.current (f.place g.outputDir t'.current) := by
  rcases stub_or_always hplan hf with ⟨d, hd, hs⟩ | ⟨-, ho⟩
  · exact ⟨d, hd, place_of_mem_planStub hs _ ▸ List.prefix_append _ _⟩
  · obtain ⟨hreach, content, hfile⟩ := hthere ho
    exact hconfined.target (FileTree.not_up_of_reaches ht' hreach hfile)

theorem onWay_stubPlace_iff (hd : d ∈ ds) :
    g.OnWay ds base (g.stubPlace d base) ↔ g.outputDir.Passes base (g.stubPlace d base) := by
  constructor
  · rintro ⟨d', -, hpass⟩
    refine (passes_dialectDir.1 hpass).resolve_right fun he => ?_
    have hlen := congrArg List.length he
    rw [stubPlace, resolve_dialectDir_eq, resolve_dialectDir_eq] at hlen
    simp at hlen
  · exact fun hpass => ⟨d, hd, passes_dialectDir.2 (.inl hpass)⟩

theorem mem_plan_of_stub {modules : List GeneratedModule}
    (h : g.plan modules ds keep t = .ok r) (hd : d ∈ ds) {f : PlannedFile} (hf : f ∈ g.planStub d) :
    f ∈ r.files := by
  obtain ⟨files, hpd, hmem⟩ := mem_plan_of_planDialect h hd
  obtain ⟨extras, -, rfl⟩ := planDialect_eq_ok hpd
  exact hmem f (List.mem_append_left _ (List.mem_append_left _ hf))

/-! ## The files afterwards -/

section

variable {modules : List GeneratedModule}
  (hprep : FileTree.Rebuilt (g.Inside ds t.current) (g.OnWay ds t.current) t t₁)
  (hplan : g.plan modules ds keep t = .ok r)
  (hw : FileRegistry.Writes g.outputDir r.inOrder t₁ t')

include hprep hplan hw

/-- A directory in the place of a stub would have to be the stub. -/
theorem stubsFree_of_holdsExactly (hexact : g.HoldsExactly ds r.inOrder t') :
    g.StubsFree ds t.current := by
  intro htsconfig d hd hpass
  have hcur : t'.current = t.current := hw.grows.current.trans hprep.current
  obtain ⟨f, hf⟩ : ∃ f, f ∈ g.planStub d := ⟨_, mem_planStub_iff.2 ⟨htsconfig, rfl⟩⟩
  have hdir := hw.grows.directory _ (hprep.made _ ((onWay_stubPlace_iff hd).2 hpass))
  have hlast : FileRegistry.lastAt g.outputDir t'.current r.inOrder (g.stubPlace d t.current) ≠
      none := fun hn => FileRegistry.lastAt_eq_none_iff.1 hn f
    (FileRegistry.mem_inOrder.2 (mem_plan_of_stub hplan hd hf))
    (hcur ▸ place_of_mem_planStub hf _)
  obtain ⟨f', hf'⟩ := Option.ne_none_iff_exists'.1 hlast
  have hfile := (hexact _ ⟨d, hd, hcur ▸ List.prefix_append _ _⟩ _).2 ⟨f', hf', rfl⟩
  rw [hdir] at hfile
  cases hfile

theorem holdsExactly_of_stubsFree (hsteps : ∀ f ∈ r.files, g.targetSteps f ≠ [])
    (hfree : g.StubsFree ds t.current) : g.HoldsExactly ds r.inOrder t' := by
  have hlead : ∀ d ∈ ds, t₁.Leads (g.dialectDir d) := fun d hd l hl =>
    hprep.made l ⟨d, hd, hprep.current ▸ hl⟩
  have hcur : t'.current = t.current := hw.grows.current.trans hprep.current
  intro l hl content
  rw [hcur] at hl
  have hnofile : t₁.get? l ≠ some (.file content) := by
    by_cases hway : g.OnWay ds t.current l
    · simp [hprep.made l hway]
    · simp [hprep.gone l hway hl]
  rw [get?_written hprep.wellFormed hlead hplan hsteps hw, hcur, ← hprep.current,
    FileRegistry.inOrder_eq fun f hf => overwrite_iff hplan hf, FileRegistry.lastAt_append,
    ← FileRegistry.inOrder_eq fun f hf => overwrite_iff hplan hf]
  cases FileRegistry.lastAt g.outputDir t₁.current (r.inOrder.filter (·.overwrite = .always)) l with
  | some f => simp
  | none =>
    simp only [hnofile, false_or, Option.none_or]
    constructor
    · rintro ⟨-, ⟨f, hf, hplace⟩, rfl⟩
      have hlast : FileRegistry.lastAt g.outputDir t₁.current
          (r.inOrder.filter (·.overwrite = .ifMissing)) l ≠ none := fun hn =>
        FileRegistry.lastAt_eq_none_iff.1 hn f hf hplace
      obtain ⟨f', hf'⟩ := Option.ne_none_iff_exists'.1 hlast
      obtain ⟨d, -, hs⟩ := stub_of_ifMissing hplan (FileRegistry.mem_of_lastAt hf').1
      refine ⟨f', hf', ?_⟩
      rw [(mem_planStub_iff.1 hs).2]
      rfl
    · rintro ⟨f, hf, rfl⟩
      obtain ⟨hmem, hplace⟩ := FileRegistry.mem_of_lastAt hf
      obtain ⟨d, hd, hs⟩ := stub_of_ifMissing hplan hmem
      obtain ⟨htsconfig, he⟩ := mem_planStub_iff.1 hs
      refine ⟨?_, ⟨f, hmem, hplace⟩, by rw [he]; rfl⟩
      rw [place_of_mem_planStub hs, hprep.current] at hplace
      subst hplace
      exact hprep.gone _ (fun hway => hfree htsconfig d hd ((onWay_stubPlace_iff hd).1 hway)) hl

/-- **The files afterwards are those that are planned** exactly if no stub's place is on the way to the
output. -/
theorem holdsExactly_iff (hsteps : ∀ f ∈ r.files, g.targetSteps f ≠ []) :
    g.HoldsExactly ds r.inOrder t' ↔ g.StubsFree ds t.current :=
  ⟨stubsFree_of_holdsExactly hprep hplan hw, holdsExactly_of_stubsFree hprep hplan hw hsteps⟩

end

/-- A file in the first directory stays if the path of the directory does not find it. -/
theorem kept_of_not_finds (ht : t.WellFormed) (hds : (d :: rest).Nodup)
    (h : g.prepareDirs false (d :: rest) t = (t', .ok cleared)) (hd : ¬ t.Finds (g.dialectDir d))
    (hl : (g.dialectDir d).resolve t.current <+: l) (hf : t.get? l = some (.file content)) :
    t'.get? l = some (.file content) := by
  obtain ⟨t₁, gone, t₂, more, hc, hm, hrest, -⟩ := prepareDirs_cons_eq_ok h
  simp only [Bool.false_eq_true, if_false] at hc
  have hgone : gone = false := by
    rw [FileTree.gone_eq_exists? hc]
    exact Bool.eq_false_iff.2 fun he => hd fun _ => he
  obtain rfl : t₁ = t := by
    rcases FileTree.clear_eq_ok hc with ⟨-, he⟩ | ⟨he, -⟩
    · exact he
    · rw [hgone] at he
      cases he
  have hmake := FileTree.change_createDirs ht (g.dialectDir d)
  rw [hm] at hmake
  have hmore := change_prepareDirs (g := g) rest hmake.wellFormed false
  rw [hrest, hmake.current] at hmore
  refine hmore.get?_file ?_ (hmake.get?_file (fun hf => hf) hf)
  rintro ⟨d', hd', hpre⟩
  have hsame : (g.dialectDir d).resolve t₁.current <+: (g.dialectDir d').resolve t₁.current :=
    List.prefix_of_prefix_length_le hl hpre (by simp [resolve_dialectDir_eq])
  exact (List.nodup_cons.1 hds).1 (dialect_eq_of_below hsame ▸ hd')

/-! ## Two runs -/

/-- **Two runs from the same inputs** write the same files and leave the same directories. -/
theorem same_of_completes (ht : t.WellFormed) (ht₂ : t₂.WellFormed)
    (hds : ds = Dialect.selected o.dialects) (hkeep : o.keepExisting = false)
    (hfinds : g.FindsFirst ds t) (hfinds₂ : g.FindsFirst ds t₂)
    (hcur : t₂.current = t.current) (hsame : g.SameInputs t t₂)
    (hget : ∀ l, ¬ g.OnWay ds t.current l → ¬ g.Inside ds t.current l → t₂.get? l = t.get? l)
    {ts ts₂ : List Template} {r₂ : FileRegistry} {t₃ : FileTree}
    (h : g.Completes o t ts r t₁ t') (h₂ : g.Completes o t₂ ts₂ r₂ t₃ t₂') :
    r₂ = r ∧ FileTree.Same t' t₂' := by
  obtain ⟨-, rfl⟩ := plans_unique ht ht₂ hcur hsame hkeep h.plans h₂.plans
  obtain ⟨cleared, hp⟩ := h.prepared
  obtain ⟨cleared₂, hp₂⟩ := h₂.prepared
  rw [hkeep, ← hds] at hp hp₂
  have hprep := rebuilt_prepareDirs ht hfinds hp
  have hprep₂ := rebuilt_prepareDirs ht₂ hfinds₂ hp₂
  rw [hcur] at hprep₂
  obtain ⟨stats, hw⟩ := h.written
  obtain ⟨stats₂, hw₂⟩ := h₂.written
  have hsame' := ((hprep.same hprep₂ hcur hget).writeFiles g.outputDir r₂.inOrder).1
  rw [hw, hw₂] at hsame'
  exact ⟨rfl, hsame'⟩

/-- Directories that are there can be prepared again, and are found. -/
theorem prepareDirs_again (ht : t.WellFormed) (hds : ds ≠ [])
    (hstays : ¬ g.Inside ds t.current t.current)
    (hway : ∀ l, g.OnWay ds t.current l → t.get? l = some .directory) :
    (∃ t' cleared, g.prepareDirs false ds t = (t', .ok cleared)) ∧ g.FindsFirst ds t := by
  have hlead : ∀ d ∈ ds, t.Leads (g.dialectDir d) := fun d hd l hl => hway l ⟨d, hd, hl⟩
  obtain ⟨d, hd⟩ := List.exists_mem_of_ne_nil ds hds
  refine ⟨prepareDirs_ok ht (hlead d hd).base hstays fun l hl content hf => ?_, fun d' _ => ?_⟩
  · rw [hway l hl] at hf
    cases hf
  · exact FileTree.finds_of_reaches (reaches_dialectDir
      (FileTree.leads_of_prefix (hlead d hd) (prefix_dialectDir g d)) d')

/-- **The same run again** fails early or plans the same files; it can prepare the directories, since no
file is on the way to them any more. -/
theorem same_again (ht : t.WellFormed) (hds : ds = Dialect.selected o.dialects)
    (hkeep : o.keepExisting = false) (hdry : o.dryRun = false) (hin : g.InputsOutside ds t.current)
    (hfinds : g.FindsFirst ds t) {ts : List Template} (h : g.Completes o t ts r t₁ t')
    (hchange : FileTree.Change (g.Inside ds t.current) (g.OnWay ds t.current) t t') :
    FileTree.Same t' (g.generate o t').1 := by
  have hsame := sameInputs_of_change hin hchange
  have hcur := hchange.current
  rcases earlyFailure_or_plans g o t' with ⟨e, he⟩ | ⟨ts', r', hplans⟩
  · rw [generate_of_earlyFailure he]
    exact .refl t'
  obtain ⟨cleared, hp⟩ := h.prepared
  rw [hkeep, ← hds] at hp
  have hprep := rebuilt_prepareDirs ht hfinds hp
  obtain ⟨⟨t₃, cleared₃, hp₃⟩, hfinds'⟩ := prepareDirs_again hchange.wellFormed
    (hds ▸ Dialect.selected_ne_nil o.dialects) (hcur ▸ hprep.stays) fun l hl =>
      h.written.grows.directory l (hprep.made l (hcur ▸ hl))
  have hget : ∀ l, ¬ g.OnWay ds t.current l → ¬ g.Inside ds t.current l →
      t'.get? l = t.get? l := fun l hl hl' =>
    (hchange.get? l hl').resolve_right fun hmade => hl hmade.1
  -- writing the files succeeds in the same way
  have hprep₃ := rebuilt_prepareDirs hchange.wellFormed hfinds' hp₃
  rw [hcur] at hprep₃
  obtain ⟨-, rfl⟩ := plans_unique ht hchange.wellFormed hcur hsame hkeep h.plans hplans
  obtain ⟨stats, hw⟩ := h.written
  have hagain := ((hprep.same hprep₃ hcur hget).writeFiles g.outputDir r'.inOrder).2
  rw [hw] at hagain
  have hcompletes : g.Completes o t' ts' r' t₃ (FileRegistry.writeFiles g.outputDir r'.inOrder t₃).1 :=
    ⟨hplans, ⟨cleared₃, by rw [hkeep, ← hds, hp₃]⟩, ⟨stats, Prod.ext rfl hagain⟩⟩
  obtain ⟨outcome, hrun, -⟩ := hcompletes.generate hdry
  rw [hrun]
  exact (same_of_completes ht hchange.wellFormed hds hkeep hfinds hfinds' hcur hsame hget h
    hcompletes).2

/-! ## Rebuilding -/

/-- **When a run rebuilds the outputs.** All files that it writes are in the directories of the
selected dialects. If the first of these is found by its path, they are the only files there
exactly if no stub's place is on the way to the output; runs from trees that differ nowhere else
leave the same; and the same run again changes nothing. If it is not found, a file in it that is not
planned stays. -/
theorem generate_rebuilds {text fileName : String} {m : Manifest}
    (h : Manifest.read text fileName = .ok m) (root : Path) {t t' : FileTree} (ht : t.WellFormed)
    {o : GenerateOptions} {ds : List Dialect} (hds : ds = Dialect.selected o.dialects)
    (hkeep : o.keepExisting = false) (hdry : o.dryRun = false) (hplain : PlainTarget ⟨m, root⟩)
    (hin : InputsOutside ⟨m, root⟩ ds t.current) {outcome : GenerateOutcome}
    (hrun : generate ⟨m, root⟩ o t = (t', .ok outcome)) :
    (∀ f ∈ outcome.files,
      Inside ⟨m, root⟩ ds t.current (f.place (outputDir ⟨m, root⟩) t.current)) ∧
    (FindsFirst ⟨m, root⟩ ds t →
      (HoldsExactly ⟨m, root⟩ ds outcome.files t' ↔ StubsFree ⟨m, root⟩ ds t.current) ∧
      (∀ (t₂ t₂' : FileTree) (outcome₂ : GenerateOutcome), t₂.WellFormed →
        AgreeOutside ⟨m, root⟩ ds t t₂ → FindsFirst ⟨m, root⟩ ds t₂ →
        generate ⟨m, root⟩ o t₂ = (t₂', .ok outcome₂) →
        outcome₂.files = outcome.files ∧ FileTree.Same t' t₂') ∧
      FileTree.Same t' (generate ⟨m, root⟩ o t').1) ∧
    ∀ d ∈ ds.head?, ¬ t.Finds (dialectDir ⟨m, root⟩ d) → ∀ (l : Location) (content : ByteArray),
      (dialectDir ⟨m, root⟩ d).resolve t.current <+: l → t.get? l = some (.file content) →
      (∀ f ∈ outcome.files, f.place (outputDir ⟨m, root⟩) t.current ≠ l) →
      t'.get? l = some (.file content) := by
  have hm := Manifest.valid_of_read h
  obtain ⟨ts, r, t₁, hc, hfiles⟩ := completes_of_generate hdry hrun
  have hstay : ∀ d ∈ ds, ExtrasStay ⟨m, root⟩ ds t.current d := fun d hd =>
    extrasStay_of_plain hplain hd
  have hchange := change_generate (g := ⟨m, root⟩) hm ht o hds fun d hd _ => hstay d hd
  rw [hrun] at hchange
  have hplan := hc.plans.planned
  rw [← hds] at hplan
  rw [hfiles]
  refine ⟨fun f hf => ?_, fun hfinds => ⟨?_, ?_, ?_⟩, fun d hd hlost l content hl hf hother => ?_⟩
  · have hnames : ∀ x ∈ ts, IsName x.fileName := fun x hx =>
      ((FileTree.loadTemplates_eq_ok ht hc.plans.loaded).2 x hx).1
    have hconfined := confined_of_mem_plan (g := ⟨m, root⟩) hm ht hnames (fun d hd _ => hstay d hd)
      hplan (FileRegistry.mem_inOrder.1 hf)
    rw [← hchange.current] at hconfined ⊢
    exact inside_of_written hplan hchange.wellFormed (FileRegistry.mem_inOrder.1 hf) hconfined
      (hc.there hm ht f hf).2
  · obtain ⟨cleared, hp⟩ := hc.prepared
    rw [hkeep, ← hds] at hp
    exact holdsExactly_iff (rebuilt_prepareDirs ht hfinds hp) hplan hc.written
      (hc.steps_ne_nil hm ht)
  · intro t₂ t₂' outcome₂ ht₂ hagree hfinds₂ hrun₂
    obtain ⟨ts₂, r₂, t₃, hc₂, hfiles₂⟩ := completes_of_generate hdry hrun₂
    obtain ⟨rfl, hsame⟩ := same_of_completes ht ht₂ hds hkeep hfinds hfinds₂ hagree.current
      (sameInputs_of_agree hin hagree) (fun l _ hl => hagree.get? l hl) hc hc₂
    exact ⟨hfiles₂, hsame⟩
  · exact same_again ht hds hkeep hdry hin hfinds hc hchange
  · obtain ⟨cleared, hp⟩ := hc.prepared
    rw [hkeep, ← hds] at hp
    obtain ⟨ht₁, hcur, -⟩ := hc.prepares ht
    have hnodup : ds.Nodup := hds ▸ Dialect.nodup_selected o.dialects
    cases ds with
    | nil => simp at hd
    | cons d' rest =>
      obtain rfl : d' = d := by simpa using hd
      have hkept := kept_of_not_finds ht hnodup hp hlost hl hf
      have hwrite := hc.written.change ht₁ fun f hf =>
        hc.steps_ne_nil hm ht f (FileRegistry.mem_inOrder.1 hf)
      refine hwrite.get?_file ?_ hkept
      rintro ⟨f, hf, hplace⟩
      exact hother f hf (hcur ▸ hplace)

/-- With the settings that are built in, a run replaces a stub that was edited and removes a file that
is not planned. -/
theorem generate_rebuilds_standard :
    ∃ t t' : FileTree, ∃ outcome : GenerateOutcome, t.WellFormed ∧
      (t.get? ["work", "src", "pg", "stale.ts"]).isSome ∧
      t.get? ["work", "src", "pg", "tsconfig.json"] = some (.file "edited".toUTF8) ∧
      generate ⟨.standard, ⟨"."⟩⟩ ⟨[.pg], false, false⟩ t = (t', .ok outcome) ∧
      HoldsExactly ⟨.standard, ⟨"."⟩⟩ [.pg] outcome.files t' ∧
      FileTree.Same t' (generate ⟨.standard, ⟨"."⟩⟩ ⟨[.pg], false, false⟩ t').1 := by
  let t : FileTree := (((FileTree.empty.put ⟨"src/dialect/count.ts"⟩ "export {}\n").1.put
    ⟨"src/pg/stale.ts"⟩ "old\n").1.put ⟨"src/pg/tsconfig.json"⟩ "edited").1
  obtain ⟨ht, hstale, hedited, hbase, hin, hfree⟩ : t.WellFormed ∧
      (t.get? ["work", "src", "pg", "stale.ts"]).isSome ∧
      t.get? ["work", "src", "pg", "tsconfig.json"] = some (.file "edited".toUTF8) ∧
      t.get? t.current = some .directory ∧ InputsOutside ⟨.standard, ⟨"."⟩⟩ [.pg] t.current ∧
      StubsFree ⟨.standard, ⟨"."⟩⟩ [.pg] t.current := by decide +kernel
  obtain ⟨outcome, hout⟩ := exists_ok_of_toOption
    (x := (generate ⟨.standard, ⟨"."⟩⟩ ⟨[.pg], false, false⟩ t).2) (by decide +kernel)
  have hrun : generate ⟨.standard, ⟨"."⟩⟩ ⟨[.pg], false, false⟩ t = (_, .ok outcome) :=
    Prod.ext rfl hout
  have hread : Manifest.read "" "dialectic.toml" = .ok .standard := ok_of_toOption (by decide +kernel)
  have hds : [.pg] = Dialect.selected [.pg] := rfl
  have hsteps : (outputDir ⟨.standard, ⟨"."⟩⟩).steps = [] ++ ["src"].map .name := by decide +kernel
  obtain ⟨-, hbuilt, -⟩ :=
    generate_rebuilds hread ⟨"."⟩ ht hds rfl rfl (by decide +kernel) hin hrun
  obtain ⟨hexact, -, hagain⟩ := hbuilt (findsFirst_of_straight ht hbase hsteps (by simp))
  exact ⟨t, _, outcome, ht, hstale, hedited, hrun, hexact.2 hfree, hagain⟩

/-- **Rebuilding may keep a stale file**: the way to the output is not there yet when it is looked for.
Only the next run removes it. -/
theorem rebuild_keeps_stale_file :
    ∃ m : Manifest, Manifest.read detour "dialectic.toml" = .ok m ∧ PlainTarget ⟨m, ⟨"."⟩⟩ ∧
      ∃ t t' : FileTree, ∃ outcome : GenerateOutcome, t.WellFormed ∧
        InputsOutside ⟨m, ⟨"."⟩⟩ [.pg] t.current ∧
        generate ⟨m, ⟨"."⟩⟩ ⟨[.pg], false, false⟩ t = (t', .ok outcome) ∧
        ¬ HoldsExactly ⟨m, ⟨"."⟩⟩ [.pg] outcome.files t' ∧
        t'.get? ["work", "src", "pg", "stale.ts"] = some (.file "old\n".toUTF8) ∧
        (generate ⟨m, ⟨"."⟩⟩ ⟨[.pg], false, false⟩ t').1.get? ["work", "src", "pg", "stale.ts"] =
          none := by
  let m : Manifest := { Manifest.standard with
    generator := { GeneratorSettings.standard with output := ⟨"build/../src"⟩ } }
  let t : FileTree := ((FileTree.empty.put ⟨"src/dialect/count.ts"⟩ "export {}\n").1.put
    ⟨"src/pg/stale.ts"⟩ "old\n").1
  obtain ⟨outcome, hout, hfree⟩ := exists_ok_of_map_toOption
    (x := (generate ⟨m, ⟨"."⟩⟩ ⟨[.pg], false, false⟩ t).2)
    (f := fun outcome => (FileRegistry.lastAt (outputDir ⟨m, ⟨"."⟩⟩) ["work"] outcome.files
      ["work", "src", "pg", "stale.ts"]).isNone) (b := true) (by decide +kernel)
  have hstale : (generate ⟨m, ⟨"."⟩⟩ ⟨[.pg], false, false⟩ t).1.get? ["work", "src", "pg", "stale.ts"] =
      some (.file "old\n".toUTF8) := by decide +kernel
  have hcur : (generate ⟨m, ⟨"."⟩⟩ ⟨[.pg], false, false⟩ t).1.current = ["work"] := by decide +kernel
  refine ⟨m, ok_of_toOption (by decide +kernel), by decide +kernel, t, _, outcome,
    by decide +kernel, by decide +kernel, Prod.ext rfl hout, fun hexact => ?_, hstale,
    by decide +kernel⟩
  obtain ⟨f, hf, -⟩ := (hexact _ (hcur ▸ by decide +kernel) _).1 hstale
  rw [hcur, Option.isNone_iff_eq_none.1 hfree] at hf
  cases hf

end Generator

end Multidialect
