import Multidialect.Proofs.Barrel
import Multidialect.Proofs.Files.Same
import Multidialect.Proofs.Generation.Repeated
import Multidialect.Proofs.Generation.Written

/-! # Going on from what is there

A run that keeps what is there reads each barrel, adds the lines that it misses, and writes it again.
The same run again finds in each barrel what the first one wrote (`startBarrel_written`), adds nothing,
and so plans the same files (`planExtras_again`). All directories and files are there now: stubs are
left alone, and the other files are written as they are (`generate_keeping_idempotent`).
-/

namespace Multidialect

open Path (IsName Component)

/-! ## Names -/

theorem mem_of_mem_fileStem {name : String} {c : Char} (h : c ∈ (fileStem name).toList) :
    c ∈ name.toList := by
  unfold fileStem at h
  split at h
  · rename_i stem rest hs
    rw [String.toList_ofList] at h
    unfold Text.splitLast? at hs
    split at hs
    · cases hs
    · rename_i sep before hd
      obtain ⟨rfl, -⟩ := Prod.mk.inj (Option.some.inj hs)
      have hm : c ∈ name.toList.reverse.dropWhile (· != '.') := hd ▸ .tail _ (List.mem_reverse.1 h)
      exact List.mem_reverse.1 ((List.dropWhile_sublist _).subset hm)
  · exact h

theorem FileTree.name_of_loadTemplates {t : FileTree} {dir : Path} {extensions : List String}
    {xs : List Template} (h : t.loadTemplates dir extensions = .ok xs) {x : Template} (hx : x ∈ xs) :
    x.name = fileStem x.fileName := by
  obtain ⟨paths, -, h⟩ := bind_eq_ok.1 h
  obtain ⟨p, -, hp⟩ := exists_of_mem_mapM h hx
  obtain ⟨source, -, hp⟩ := bind_eq_ok.1 hp
  obtain rfl := pure_eq_ok.1 hp
  rfl

/-- Steps that only go down append the same names wherever they start. -/
theorem FileTree.exists_foldl_step {cs : List Component} (h : ∀ c ∈ cs, c ≠ .up ∧ c ≠ .root) :
    ∃ names : Location, ∀ l, cs.foldl step l = l ++ names := by
  induction cs with
  | nil => exact ⟨[], fun l => (List.append_nil l).symm⟩
  | cons c cs ih =>
    obtain ⟨names, hnames⟩ := ih fun c' hc' => h c' (.tail _ hc')
    obtain ⟨hup, hroot⟩ := h c (.head _)
    cases c with
    | up => exact absurd rfl hup
    | root => exact absurd rfl hroot
    | here => exact ⟨names, hnames⟩
    | name s => exact ⟨s :: names, fun l => by simp [hnames, step]⟩

/-- The last file at a place comes after all others there. -/
theorem FileRegistry.index_le_of_lastAt {base : Path} {current l : Location}
    {files : List PlannedFile} {f f' : PlannedFile}
    (hsorted : files.Pairwise fun a b => a.category.index ≤ b.category.index) (hf : f ∈ files)
    (hplace : f.place base current = l) (h : lastAt base current files l = some f') :
    f.category.index ≤ f'.category.index := by
  have hmem : f ∈ files.filter fun f => f.place base current = l :=
    List.mem_filter.2 ⟨hf, by simpa using hplace⟩
  have hfilter := hsorted.filter fun f => decide (f.place base current = l)
  obtain ⟨front, hfront⟩ := List.getLast?_eq_some_iff.1 h
  rw [hfront] at hmem hfilter
  rcases List.mem_append.1 hmem with hm | hm
  · exact (List.pairwise_append.1 hfilter).2.2 f hm f' (.head _)
  · exact le_of_eq (congrArg _ (congrArg _ (List.mem_singleton.1 hm)))

namespace Generator

variable {g : Generator} {o : GenerateOptions} {ds : List Dialect} {d d' : Dialect} {dir : Path}
  {t t' t₁ : FileTree} {keep : Bool} {r : FileRegistry} {ts : List Template}

/-! ## Barrels that were written -/

/-- **A barrel that was written** is the one that is started from. -/
theorem startBarrel_written {p : Path} {b : Barrel} (hb : b.WellFormed) (hr : t.Reaches p)
    (hf : t.get? (p.resolve t.current) = some (.file (String.ofList b.render).toUTF8)) :
    startBarrel true p t = .ok b := by
  have hread := FileTree.read_of_reaches hr hf
  have hexists : t.exists? p = true := by
    rw [FileTree.exists?_of_reaches hr, hf]
    rfl
  simp [startBarrel, hexists, hread, FileFault.during, Except.map, Except.mapError,
    String.toList_ofList, Barrel.ofText_render hb]

theorem wellFormed_startBarrel {p : Path} {b : Barrel}
    (hreturns : ∀ s, t.read p = .ok s → Text.returnsEndLines s.toList = true)
    (h : startBarrel keep p t = .ok b) : b.WellFormed := by
  unfold startBarrel at h
  split at h
  · obtain ⟨s, hs, rfl⟩ := map_eq_ok.1 h
    exact Barrel.wellFormed_ofText (hreturns s (mapError_eq_ok.1 hs))
  · obtain rfl := Except.ok.inj h
    exact Barrel.wellFormed_empty

theorem no_feed_of_exported {extensions : List String} {xs : List Template}
    (hxs : t.loadTemplates dir extensions = .ok xs)
    (hnames : ∀ x ∈ xs, '\n' ∉ x.fileName.toList) : ∀ stem ∈ g.exported xs, '\n' ∉ stem := by
  intro stem hstem hfeed
  obtain ⟨x, hx, rfl⟩ := List.mem_map.1 hstem
  have hx := (List.mem_filter.1 hx).1
  rw [FileTree.name_of_loadTemplates hxs hx] at hfeed
  exact hnames x hx (mem_of_mem_fileStem hfeed)

/-! ## The place of a barrel -/

theorem place_barrelFile (text : String) (base : Location) :
    (g.barrelFile d text).place g.outputDir base = (g.barrelPath d).resolve base := rfl

/-- A planned barrel is that of a dialect. -/
theorem barrel_of_mem_planDialect {modules : List GeneratedModule} {files : List PlannedFile}
    (h : g.planDialect modules keep t d = .ok files) {f : PlannedFile} (hf : f ∈ files)
    (hc : f.category = .barrel) :
    ∃ dir start xs, (g.manifest.profile d).extras = some dir ∧
      startBarrel keep (g.barrelPath d) t = .ok start ∧
      t.loadTemplates (g.root.join dir) g.manifest.generator.extensions = .ok xs ∧
      f = g.barrelFile d (g.barrelText start xs) := by
  obtain ⟨extras, he, rfl⟩ := planDialect_eq_ok h
  rcases List.mem_append.1 hf with hf | hf
  · rcases List.mem_append.1 hf with hf | hf
    · rw [(mem_planStub_iff.1 hf).2] at hc
      cases hc
    · obtain ⟨x, -, rfl⟩ := List.mem_map.1 hf
      cases hc
  · cases hdir : (g.manifest.profile d).extras with
    | none =>
      rcases planExtras_eq_ok he with ⟨-, rfl⟩ | ⟨dir, -, -, hsome, -⟩
      · cases hf
      · rw [hdir] at hsome
        cases hsome
    | some dir =>
      obtain ⟨start, xs, hs, hxs, rfl⟩ := (planExtras_eq_ok_iff hdir).1 he
      rcases List.mem_append.1 hf with hf | hf
      · obtain ⟨x, -, rfl⟩ := List.mem_map.1 hf
        cases hc
      · exact ⟨dir, start, xs, rfl, hs, hxs, List.mem_singleton.1 hf⟩

theorem steps_barrelPath (hm : g.manifest.Valid) (d : Dialect) :
    (g.barrelPath d).steps = (g.extrasDir d).steps ++ (Path.mk g.manifest.generator.barrel).steps :=
  targetSteps_barrelFile hm d ""

/-- Barrels of different dialects stand in different places. -/
theorem dialect_eq_of_barrelPath (hm : g.manifest.Valid) (hplain : g.PlainTarget) {base : Location}
    (hup : (g.barrelPath d).steps.getLast? ≠ some .up)
    (h : (g.barrelPath d).resolve base = (g.barrelPath d').resolve base) : d = d' := by
  have hsteps : ∀ d, (g.barrelPath d).steps = (g.dialectDir d).steps ++
      (g.manifest.generator.extrasTarget.steps ++ (Path.mk g.manifest.generator.barrel).steps) := by
    intro d
    rw [steps_barrelPath hm, extrasDir, Path.steps_join _ hplain.1, List.append_assoc]
  have hdown : ∀ c ∈ g.manifest.generator.extrasTarget.steps ++
      (Path.mk g.manifest.generator.barrel).steps, c ≠ .up ∧ c ≠ .root := by
    intro c hc
    rcases List.mem_append.1 hc with hc | hc
    · obtain ⟨cs, hcs, hroot⟩ := Path.steps_root g.manifest.generator.extrasTarget
      rw [hplain.1, if_neg Bool.false_ne_true, List.nil_append] at hcs
      refine ⟨fun he => hplain.2 (he ▸ hc), hroot c (hcs ▸ hc)⟩
    · rcases (Path.steps_of_no_slash hm.barrel.1 hm.barrel.2).2 with ⟨-, hs⟩ | hs | hs
      · rw [hs, List.mem_singleton] at hc
        simp [hc]
      · rw [hs] at hc
        cases hc
      · exact absurd (by simp [steps_barrelPath hm, hs]) hup
  obtain ⟨names, hnames⟩ := FileTree.exists_foldl_step hdown
  have hplace : ∀ d, (g.barrelPath d).resolve base = (g.dialectDir d).resolve base ++ names := by
    intro d
    rw [Path.resolve, hsteps, List.foldl_append, hnames]
    rfl
  rw [hplace, hplace] at h
  have hbelow : (g.dialectDir d).resolve base <+: (g.dialectDir d').resolve base :=
    List.append_cancel_right h ▸ List.prefix_rfl
  exact dialect_eq_of_below hbelow

section

variable {modules : List GeneratedModule} {start : Barrel} {xs : List Template}
  (hdir : (g.manifest.profile d).extras = some dir)
  (hs : startBarrel keep (g.barrelPath d) t = .ok start)
  (hxs : t.loadTemplates (g.root.join dir) g.manifest.generator.extensions = .ok xs)

include hdir hs hxs

theorem mem_plan_of_barrel (h : g.plan modules ds keep t = .ok r) (hd : d ∈ ds) :
    g.barrelFile d (g.barrelText start xs) ∈ r.files := by
  obtain ⟨files, hpd, hmem⟩ := mem_plan_of_planDialect h hd
  obtain ⟨extras, he, rfl⟩ := planDialect_eq_ok hpd
  have hextras := (planExtras_eq_ok_iff hdir).2 ⟨start, xs, hs, hxs, rfl⟩
  obtain rfl := Except.ok.inj (he.symm.trans hextras)
  exact hmem _ (by simp)

/-- The last file that is planned for the place of a barrel is the barrel. -/
theorem lastAt_barrel (hm : g.manifest.Valid) (hplain : g.PlainTarget)
    (h : g.plan modules ds keep t = .ok r) (hd : d ∈ ds) (base : Location)
    (hup : (g.barrelPath d).steps.getLast? ≠ some .up) :
    FileRegistry.lastAt g.outputDir base (r.inOrder.filter (·.overwrite = .always))
      ((g.barrelPath d).resolve base) = some (g.barrelFile d (g.barrelText start xs)) := by
  have hmem : g.barrelFile d (g.barrelText start xs) ∈
      r.inOrder.filter (·.overwrite = .always) :=
    List.mem_filter.2 ⟨FileRegistry.mem_inOrder.2 (mem_plan_of_barrel hdir hs hxs h hd), rfl⟩
  have hsome : FileRegistry.lastAt g.outputDir base (r.inOrder.filter (·.overwrite = .always))
      ((g.barrelPath d).resolve base) ≠ none := fun hn =>
    FileRegistry.lastAt_eq_none_iff.1 hn _ hmem rfl
  obtain ⟨f, hf⟩ := Option.ne_none_iff_exists'.1 hsome
  obtain ⟨hfmem, hplace⟩ := FileRegistry.mem_of_lastAt hf
  -- barrels are written last, so it is one, and no other dialect has it in this place
  have hindex := FileRegistry.index_le_of_lastAt (r.pairwise_inOrder.filter _) hmem rfl hf
  have hbarrel : f.category = .barrel := by
    cases hc : f.category <;> simp [hc, Category.index, barrelFile, PlannedFile.ofCategory] at hindex
    rfl
  obtain ⟨d', hd', files, hpd, hfiles⟩ := planDialect_of_mem_plan h
    (FileRegistry.mem_inOrder.1 (List.mem_filter.1 hfmem).1)
  obtain ⟨dir', start', xs', hdir', hs', hxs', rfl⟩ := barrel_of_mem_planDialect hpd hfiles hbarrel
  rw [place_barrelFile] at hplace
  obtain rfl := dialect_eq_of_barrelPath hm hplain hup hplace.symm
  obtain rfl := Option.some.inj (hdir.symm.trans hdir')
  obtain rfl := Except.ok.inj (hs.symm.trans hs')
  obtain rfl := Except.ok.inj (hxs.symm.trans hxs')
  exact hf

/-- **A barrel is written** as it was planned. -/
theorem barrel_written (hm : g.manifest.Valid) (ht : t.WellFormed) (hplain : g.PlainTarget)
    (hkeep : o.keepExisting = keep) (h : g.Completes o t ts r t₁ t')
    (hd : d ∈ Dialect.selected o.dialects) :
    t'.Reaches (g.barrelPath d) ∧ t'.get? ((g.barrelPath d).resolve t'.current) =
      some (.file (g.barrelText start xs).toUTF8) := by
  subst hkeep
  obtain ⟨ht₁, hcur₁, hlead⟩ := h.prepares ht
  obtain ⟨ht', hcur'⟩ := h.wellFormed hm ht
  have hmem := mem_plan_of_barrel hdir hs hxs h.plans.planned hd
  obtain ⟨hreach, content, hfile⟩ := (h.there hm ht _ (FileRegistry.mem_inOrder.2 hmem)).2 rfl
  rw [place_barrelFile] at hfile
  have hup := FileTree.not_up_of_reaches ht' hreach hfile
  have hlast := lastAt_barrel hdir hs hxs hm hplain h.plans.planned hd t₁.current hup
  refine ⟨hreach, ?_⟩
  rw [hcur', ← hcur₁, get?_written ht₁ hlead h.plans.planned (h.steps_ne_nil hm ht) h.written, hlast]
  rfl

end

/-! ## The same run again -/

/-- No extra module of some dialects has a name of more than one line. -/
def NamesOneLine (g : Generator) (ds : List Dialect) (t : FileTree) : Prop :=
  ∀ d ∈ ds, ∀ dir, (g.manifest.profile d).extras = some dir → ∀ xs,
    t.loadTemplates (g.root.join dir) g.manifest.generator.extensions = .ok xs →
    ∀ x ∈ xs, '\n' ∉ x.fileName.toList

/-- In the barrels of some dialects that are there, each carriage return is followed by a line feed. -/
def BarrelsOfLines (g : Generator) (ds : List Dialect) (t : FileTree) : Prop :=
  ∀ d ∈ ds, (g.manifest.profile d).extras.isSome → ∀ s, t.read (g.barrelPath d) = .ok s →
    Text.returnsEndLines s.toList = true

instance (g : Generator) (ds : List Dialect) (t : FileTree) : Decidable (g.NamesOneLine ds t) :=
  decidable_of_iff (∀ d ∈ ds, ∀ dir ∈ (g.manifest.profile d).extras.toList,
    ∀ xs ∈ (t.loadTemplates (g.root.join dir) g.manifest.generator.extensions).toOption.toList,
      ∀ x ∈ xs, '\n' ∉ x.fileName.toList)
    (by simp only [NamesOneLine, Option.mem_toList, toOption_eq_some])

instance (g : Generator) (ds : List Dialect) (t : FileTree) : Decidable (g.BarrelsOfLines ds t) :=
  decidable_of_iff (∀ d ∈ ds, (g.manifest.profile d).extras.isSome →
    ∀ s ∈ (t.read (g.barrelPath d)).toOption.toList, Text.returnsEndLines s.toList = true)
    (by simp only [BarrelsOfLines, Option.mem_toList, toOption_eq_some])

/-- **The same extra files are planned again**: what is added to a barrel is there by now. -/
theorem planExtras_again (hm : g.manifest.Valid) (ht : t.WellFormed) (hplain : g.PlainTarget)
    {o : GenerateOptions} (hkeep : o.keepExisting = true) (h : g.Completes o t ts r t₁ t')
    (hsame : g.SameInputs t t') (hgrows : FileTree.Grows t t')
    (hd : d ∈ Dialect.selected o.dialects)
    (hnames : g.NamesOneLine (Dialect.selected o.dialects) t)
    (hlines : g.BarrelsOfLines (Dialect.selected o.dialects) t) :
    g.planExtras d true t' = g.planExtras d true t := by
  obtain ⟨files, hpd, -⟩ := mem_plan_of_planDialect h.plans.planned hd
  obtain ⟨extras, he, -⟩ := planDialect_eq_ok hpd
  rw [hkeep] at he
  rw [he]
  cases hdir : (g.manifest.profile d).extras with
  | none =>
    unfold planExtras at he ⊢
    simpa only [hdir] using he
  | some dir =>
    obtain ⟨start, xs, hs, hxs, rfl⟩ := (planExtras_eq_ok_iff hdir).1 he
    obtain ⟨ht', hcur⟩ := h.wellFormed hm ht
    have hwf : (start.appendAll (g.exported xs)).WellFormed :=
      (wellFormed_startBarrel (hlines d hd (by simp [hdir])) hs).appendAll
        (no_feed_of_exported hxs (hnames d hd dir hdir xs hxs))
    obtain ⟨hreach, hfile⟩ := barrel_written hdir hs hxs hm ht hplain hkeep h hd
    refine (planExtras_eq_ok_iff hdir).2 ⟨start.appendAll (g.exported xs), xs,
      startBarrel_written hwf hreach hfile, ?_, ?_⟩
    · exact loadTemplates_again ht ht' hcur hsame (mem_inputDirs_extras hdir) hxs
        ((FileTree.leads_of_loadTemplates hxs).2.grows hgrows)
    · rw [barrelText, barrelText, Barrel.appendAll_appendAll]

/-- **Files that a run wrote** can be written again, and nothing changes. -/
theorem same_of_rewrite {o : GenerateOptions} (hm : g.manifest.Valid) (ht : t.WellFormed)
    (h : g.Completes o t ts r t₁ t') :
    ∃ t₂, FileRegistry.Writes g.outputDir r.inOrder t' t₂ ∧ FileTree.Same t' t₂ := by
  obtain ⟨ht₁, hcur₁, hlead⟩ := h.prepares ht
  obtain ⟨-, hcur'⟩ := h.wellFormed hm ht
  have hthere := h.there hm ht
  have hreach : ∀ f ∈ r.inOrder, t'.Reaches (g.outputDir.join f.path) := by
    intro f hf
    rcases stub_or_always h.plans.planned (FileRegistry.mem_inOrder.1 hf) with ⟨d, hd, hs⟩ | ⟨-, ho⟩
    · exact reaches_of_mem_planStub ((hlead d hd).grows h.written.grows) hs
    · exact ((hthere f hf).2 ho).1
  obtain ⟨t₂, hw, hcur₂, hget⟩ := FileRegistry.rewrite hreach
    fun f hf => ⟨(hthere f hf).1, fun ho => ((hthere f hf).2 ho).2⟩
  refine ⟨t₂, hw, hcur₂, fun l => ?_⟩
  rw [hget]
  split
  · rename_i f hf
    rw [hcur', ← hcur₁] at hf
    refine ((get?_written ht₁ hlead h.plans.planned (h.steps_ne_nil hm ht) h.written _).2 ?_).symm
    rw [hf]
  · rfl

/-- **Keeping what is there is idempotent**: the same run again succeeds, plans the same files, and
leaves the tree as it is. -/
theorem generate_keeping_idempotent {text fileName : String} {m : Manifest}
    (h : Manifest.read text fileName = .ok m) (root : Path) {t t' : FileTree} (ht : t.WellFormed)
    {o : GenerateOptions} {ds : List Dialect} (hds : ds = Dialect.selected o.dialects)
    (hkeep : o.keepExisting = true) (hdry : o.dryRun = false) (hplain : PlainTarget ⟨m, root⟩)
    (hin : InputsOutside ⟨m, root⟩ ds t.current) (hnames : NamesOneLine ⟨m, root⟩ ds t)
    (hlines : BarrelsOfLines ⟨m, root⟩ ds t) {outcome : GenerateOutcome}
    (hrun : generate ⟨m, root⟩ o t = (t', .ok outcome)) :
    ∃ (t₂ : FileTree) (outcome₂ : GenerateOutcome),
      generate ⟨m, root⟩ o t' = (t₂, .ok outcome₂) ∧ outcome₂.files = outcome.files ∧
      FileTree.Same t' t₂ := by
  subst hds
  have hm := Manifest.valid_of_read h
  obtain ⟨ts, r, t₁, hc, hfiles⟩ := completes_of_generate hdry hrun
  have hchange := change_generate (g := ⟨m, root⟩) hm ht o rfl fun d hd _ =>
    extrasStay_of_plain hplain hd
  rw [hrun] at hchange
  have hsame := sameInputs_of_change hin hchange
  have hgrows : FileTree.Grows t t' := by
    obtain ⟨cleared, hp⟩ := hc.prepared
    rw [hkeep] at hp
    exact (grows_prepareDirs hp).trans hc.written.grows
  have hplans : Plans ⟨m, root⟩ o t' ts r := by
    refine ⟨?_, hc.plans.rendered, ?_⟩
    · exact loadTemplates_again ht hchange.wellFormed hchange.current hsame
        (mem_inputDirs_templates _) hc.plans.loaded
        ((FileTree.leads_of_loadTemplates hc.plans.loaded).2.grows hgrows)
    · rw [← hc.plans.planned, hkeep]
      exact plan_congr fun d hd =>
        planExtras_again hm ht hplain hkeep hc hsame hgrows hd hnames hlines
  have hprepared := prepareDirs_of_leads (g := ⟨m, root⟩) fun d hd =>
    ((hc.prepares ht).2.2 d hd).grows hc.written.grows
  obtain ⟨t₂, hw, hsame₂⟩ := same_of_rewrite hm ht hc
  have hcompletes : Completes ⟨m, root⟩ o t' ts r t' t₂ :=
    ⟨hplans, ⟨[], by rw [hkeep, hprepared]⟩, hw⟩
  obtain ⟨outcome₂, hrun₂, hfiles₂⟩ := hcompletes.generate hdry
  exact ⟨t₂, outcome₂, hrun₂, hfiles₂.trans hfiles.symm, hsame₂⟩

/-- A run keeps the line that was written to a barrel by hand; the same run again changes nothing. -/
theorem generate_keeping_extras :
    ∃ m : Manifest, Manifest.read "[dialects.pg]\nextras = \"extras\"\n" "dialectic.toml" = .ok m ∧
      ∃ t t' : FileTree, ∃ outcome : GenerateOutcome, t.WellFormed ∧
        t.get? ["work", "src", "pg", "functions", "index.ts"] =
          some (.file "// by hand\r\n".toUTF8) ∧
        generate ⟨m, ⟨"."⟩⟩ ⟨[.pg], true, false⟩ t = (t', .ok outcome) ∧
        t'.get? ["work", "src", "pg", "functions", "index.ts"] =
          some (.file "// by hand\nexport * from './view'\n".toUTF8) ∧
        FileTree.Same t' (generate ⟨m, ⟨"."⟩⟩ ⟨[.pg], true, false⟩ t').1 := by
  let m : Manifest := { Manifest.standard with
    dialects := [(.pg, { Overrides.nothing with extras := some ⟨"extras"⟩ })] }
  let t : FileTree := (((FileTree.empty.put ⟨"src/dialect/count.ts"⟩ "export {}\n").1.put
    ⟨"extras/view.ts"⟩ "export {}\n").1.put ⟨"src/pg/functions/index.ts"⟩ "// by hand\r\n").1
  have h : Manifest.read "[dialects.pg]\nextras = \"extras\"\n" "dialectic.toml" = .ok m :=
    ok_of_toOption (by decide +kernel)
  obtain ⟨ht, hbarrel, hplain, hin, hnames, hlines⟩ : t.WellFormed ∧
      t.get? ["work", "src", "pg", "functions", "index.ts"] = some (.file "// by hand\r\n".toUTF8) ∧
      PlainTarget ⟨m, ⟨"."⟩⟩ ∧ InputsOutside ⟨m, ⟨"."⟩⟩ [.pg] t.current ∧
      NamesOneLine ⟨m, ⟨"."⟩⟩ [.pg] t ∧ BarrelsOfLines ⟨m, ⟨"."⟩⟩ [.pg] t := by decide +kernel
  obtain ⟨outcome, hout⟩ := exists_ok_of_toOption
    (x := (generate ⟨m, ⟨"."⟩⟩ ⟨[.pg], true, false⟩ t).2) (by decide +kernel)
  have hrun : generate ⟨m, ⟨"."⟩⟩ ⟨[.pg], true, false⟩ t = (_, .ok outcome) := Prod.ext rfl hout
  have hds : [.pg] = Dialect.selected [.pg] := rfl
  obtain ⟨t₂, outcome₂, hrun₂, -, hsame⟩ :=
    generate_keeping_idempotent h ⟨"."⟩ ht hds rfl rfl hplain hin hnames hlines hrun
  refine ⟨m, h, t, _, outcome, ht, hbarrel, hrun, by decide +kernel, ?_⟩
  rw [hrun₂]
  exact hsame

end Generator

end Multidialect
