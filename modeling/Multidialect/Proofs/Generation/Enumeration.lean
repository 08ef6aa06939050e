import Multidialect.Proofs.Files.Enumeration
import Multidialect.Proofs.Generation.Repeated

/-! # Runs do not depend on the order of entries

A run lists the directory of the templates and those of extra modules, and what it finds there is
sorted. So nothing that comes of a run depends on the order in which directories are listed: not the
templates, the plan with its modules, extra modules and barrels, the answer or the files that are left
(`Generator.run_ignores_order`). Plugins may look at the files too; it is enough that they take no
notice of the order either (`Plugin.Steady`), as the one that writes snapshots does
(`Plugin.steady_writing`).
-/

namespace Multidialect

open FileTree (Reordered Same)

/-! ## Changing trees that differ in the order of their entries -/

theorem Path.text_of_components_nil {p : Path} (h : p.components = []) : p.text = "" := by
  unfold components at h
  split at h
  · cases h
  · cases hparts : Text.splitOn '/' p.text.toList with
    | nil => exact absurd hparts (Text.splitOn_ne_nil _ _)
    | cons part rest =>
      simp only [hparts, ofParts, List.append_eq_nil_iff, Option.toList_eq_nil_iff] at h
      have hpart : part = [] := by
        by_contra hne
        have hsome := h.1
        rw [component?, if_neg hne] at hsome
        split at hsome
        · simp at hsome
        · split at hsome <;> cases hsome
      cases hcs : p.text.toList with
      | nil => exact String.toList_eq_nil_iff.1 hcs
      | cons c cs =>
        rename_i hroot
        have hc : c ≠ '/' := fun hc => hroot cs (hc ▸ hcs)
        rw [hcs, Text.splitOn, if_neg hc] at hparts
        cases hrest : Text.splitOn '/' cs with
        | nil => exact absurd hrest (Text.splitOn_ne_nil _ _)
        | cons front back =>
          rw [hrest, hpart] at hparts
          cases hparts

namespace FileTree

variable {t t' : FileTree}

/-- A path without steps leads to the current directory, or nowhere. -/
theorem write_ne_ok {p : Path} (hp : p.steps = []) (content : ByteArray) :
    t.write p content ≠ .ok t' := by
  intro h
  obtain ⟨hloc, hdir, -⟩ := write_eq_ok h
  have hresolve : p.resolve t.current = t.current := by simp [Path.resolve, hp]
  rw [hresolve] at hdir
  rcases Path.components_eq p with hc | hc
  · rw [locate, if_pos (Path.text_of_components_nil (hc.trans hp))] at hloc
    cases hloc
  · have hwalk := (locate_eq_ok hloc).2
    rw [hc, hp] at hwalk
    simp only [walk] at hwalk
    split at hwalk
    · rename_i hd
      exact hdir hd
    · cases hwalk
    · cases hwalk

theorem WellFormed.putBytes (ht : t.WellFormed) (p : Path) (content : ByteArray) :
    (t.putBytes p content).1.WellFormed := by
  have hdirs : ∀ parent, (t.createDirs parent).1.WellFormed := fun parent =>
    (change_createDirs ht parent).wellFormed
  rcases List.eq_nil_or_concat p.steps with hp | ⟨cs, c, hp⟩
  · have hwrite : ∀ t₁ : FileTree, t₁.WellFormed → (t₁.writeBytes p content).1.WellFormed := by
      intro t₁ ht₁
      unfold writeBytes
      cases hw : t₁.write p content with
      | error e => exact ht₁
      | ok t₂ => exact absurd hw (write_ne_ok hp content)
    unfold FileTree.putBytes
    cases p.parent? with
    | none => exact hwrite t ht
    | some parent =>
      simp only
      cases (t.createDirs parent).2 with
      | error e => exact hdirs parent
      | ok u => exact hwrite _ (hdirs parent)
  · rw [List.concat_eq_append] at hp
    have hchange : Change (fun _ => True) (fun _ => False) t (t.putBytes p content).1 :=
      change_putBytes ht hp content (fun _ _ => .inl trivial) fun _ => trivial
    exact hchange.wellFormed

theorem Reordered.put (h : Reordered t t') (p : Path) (text : String) :
    Reordered (t.put p text).1 (t'.put p text).1 ∧ (t'.put p text).2 = (t.put p text).2 := by
  obtain ⟨hsame, hresult⟩ := h.same.put p text
  refine ⟨⟨hsame, ?_, ?_⟩, hresult⟩
  · rw [FileTree.put]
    exact h.left.putBytes p _
  · rw [FileTree.put]
    exact h.right.putBytes p _

theorem Same.removeBelow (h : Same t t') (l : Location) :
    Same (t.removeBelow l) (t'.removeBelow l) :=
  ⟨h.current, fun k => by rw [get?_removeBelow, get?_removeBelow, h.get?]⟩

/-- Clearing fails alike, or leaves trees that are the same. -/
theorem Same.clear (h : Same t t') (p : Path) :
    (∃ e, t.clear p = .error e ∧ t'.clear p = .error e) ∨
      ∃ t₁ t₁' gone, t.clear p = .ok (t₁, gone) ∧ t'.clear p = .ok (t₁', gone) ∧ Same t₁ t₁' := by
  simp only [FileTree.clear, h.exists?, removeDir, h.entry]
  split
  · cases t.entry p with
    | error e => exact .inl ⟨_, rfl, rfl⟩
    | ok x =>
      obtain ⟨l, e⟩ := x
      cases e with
      | file content => exact .inl ⟨_, rfl, rfl⟩
      | directory => exact .inr ⟨_, _, true, rfl, rfl, h.removeBelow l⟩
  · exact .inr ⟨t, t', false, rfl, rfl, h⟩

end FileTree

/-! ## Plugins -/

/-- The same log, and trees that differ in the order of their entries. -/
structure Recorder.Reordered (r r' : Recorder) : Prop where
  log : r'.log = r.log
  tree : FileTree.Reordered r.tree r'.tree

/-- An action that takes no notice of the order of entries. -/
def Action.Steady (a : Action (Attended Recorder)) : Prop :=
  ∀ (draft : Draft) (r r' : Recorder), r.Reordered r' →
    (a ⟨draft, r⟩).1.kept.Reordered (a ⟨draft, r'⟩).1.kept ∧
      (a ⟨draft, r'⟩).1.draft = (a ⟨draft, r⟩).1.draft ∧ (a ⟨draft, r'⟩).2 = (a ⟨draft, r⟩).2

/-- A plugin that takes no notice of the order of entries. -/
def Plugin.Steady (plugin : Plugin Recorder) : Prop :=
  ∀ pass c, (plugin.before pass c).Steady ∧ (plugin.after pass c).Steady

theorem Action.Steady.inOrder {as : List (Action (Attended Recorder))}
    (h : ∀ a ∈ as, a.Steady) : (Action.inOrder as).Steady := by
  induction as with
  | nil => exact fun draft r r' hr => ⟨hr, rfl, rfl⟩
  | cons a as ih =>
    intro draft r r' hr
    obtain ⟨hkept, hdraft, hresult⟩ := h a (.head _) draft r r' hr
    simp only [Action.inOrder, Action.andThen]
    generalize a ⟨draft, r⟩ = x at hkept hdraft hresult ⊢
    generalize a ⟨draft, r'⟩ = x' at hkept hdraft hresult ⊢
    obtain ⟨⟨draft₁, kept₁⟩, result⟩ := x
    obtain ⟨⟨draft₁', kept₁'⟩, result'⟩ := x'
    obtain rfl : draft₁' = draft₁ := hdraft
    obtain rfl : result' = result := hresult
    cases result' with
    | error e => exact ⟨hkept, rfl, rfl⟩
    | ok u => exact ih (fun b hb => h b (.tail _ hb)) draft₁' kept₁ kept₁' hkept

theorem Plugin.steady_writing (dir : Path) : (Plugin.writing dir).Steady := by
  intro pass c
  refine ⟨fun draft r r' hr => ⟨hr, rfl, rfl⟩, fun draft r r' hr => ?_⟩
  simp only [Plugin.writing, hr.log]
  obtain ⟨htree, hresult⟩ := hr.tree.put
    (dir.join ((PassSnapshot.ofDraft pass c draft).relativePath
      (r.log.nextOrdinal (.ofDraft pass c draft)))) (PassSnapshot.ofDraft pass c draft).json.render
  refine ⟨⟨rfl, htree⟩, trivial, ?_⟩
  rw [hresult]

namespace Generator

variable {g : Generator} {plugins : List (Plugin Recorder)} {t t' : FileTree}

theorem steady_run (hplugins : ∀ plugin ∈ plugins, plugin.Steady) (pipeline : Pipeline)
    (c : RenderContext) : Action.Steady (pipeline.run plugins c) := by
  refine Action.Steady.inOrder fun a ha => ?_
  obtain ⟨p, -, ha⟩ := List.mem_flatMap.1 ha
  rcases List.mem_append.1 ha with ha | ha
  · obtain ⟨plugin, hm, rfl⟩ := List.mem_map.1 ha
    exact (hplugins plugin hm p.name c).1
  · rcases List.mem_cons.1 ha with rfl | ha
    · exact fun draft r r' hr => ⟨hr, rfl, rfl⟩
    · obtain ⟨plugin, hm, rfl⟩ := List.mem_map.1 ha
      exact (hplugins plugin hm p.name c).2

theorem renderPair_reordered (hplugins : ∀ plugin ∈ plugins, plugin.Steady) (x : Template)
    (profile reference : Profile) {r r' : Recorder} (hr : r.Reordered r') :
    (g.renderPair plugins x profile reference r).1.Reordered
        (g.renderPair plugins x profile reference r').1 ∧
      (g.renderPair plugins x profile reference r').2 =
        (g.renderPair plugins x profile reference r).2 := by
  unfold renderPair
  split
  · exact ⟨hr, rfl⟩
  · obtain ⟨hkept, hdraft, hresult⟩ :=
      steady_run hplugins g.pipeline ⟨x, profile, reference, g.manifest⟩ (.ofTemplate x) r r' hr
    simp only
    generalize g.pipeline.run plugins _ ⟨_, r⟩ = y at hkept hdraft hresult ⊢
    generalize g.pipeline.run plugins _ ⟨_, r'⟩ = y' at hkept hdraft hresult ⊢
    obtain ⟨⟨draft, kept⟩, result⟩ := y
    obtain ⟨⟨draft', kept'⟩, result'⟩ := y'
    obtain rfl : draft' = draft := hdraft
    obtain rfl : result' = result := hresult
    cases result' with
    | error e => exact ⟨hkept, rfl⟩
    | ok u => exact ⟨hkept, rfl⟩

theorem renderOne_reordered (hplugins : ∀ plugin ∈ plugins, plugin.Steady) (d : Dialect)
    (x : Template) {r r' : Recorder} (hr : r.Reordered r') :
    (g.renderOne plugins d x r).1.Reordered (g.renderOne plugins d x r').1 ∧
      (g.renderOne plugins d x r').2 = (g.renderOne plugins d x r).2 := by
  unfold renderOne
  split
  · obtain ⟨hkept, hresult⟩ := renderPair_reordered (g := g) hplugins x (g.manifest.profile d)
      g.manifest.referenceProfile hr
    generalize g.renderPair plugins x _ _ r = y at hkept hresult ⊢
    generalize g.renderPair plugins x _ _ r' = y' at hkept hresult ⊢
    obtain ⟨kept, result⟩ := y
    obtain ⟨kept', result'⟩ := y'
    obtain rfl : result' = result := hresult
    cases result' with
    | error e => exact ⟨hkept, rfl⟩
    | ok u => exact ⟨hkept, rfl⟩
  · exact ⟨hr, rfl⟩

theorem renderPairs_reordered (hplugins : ∀ plugin ∈ plugins, plugin.Steady)
    (ps : List (Dialect × Template)) {r r' : Recorder} (hr : r.Reordered r') :
    (g.renderPairs plugins ps r).1.Reordered (g.renderPairs plugins ps r').1 ∧
      (g.renderPairs plugins ps r').2 = (g.renderPairs plugins ps r).2 := by
  induction ps generalizing r r' with
  | nil => exact ⟨hr, rfl⟩
  | cons p ps ih =>
    obtain ⟨d, x⟩ := p
    obtain ⟨hkept, hresult⟩ := renderOne_reordered (g := g) hplugins d x hr
    obtain ⟨hrest, hpairs⟩ := ih hkept
    simp only [renderPairs]
    exact ⟨hrest, by rw [hpairs, hresult]⟩

theorem renderWith_reordered (hplugins : ∀ plugin ∈ plugins, plugin.Steady)
    (templates : List Template) (ds : List Dialect) {r r' : Recorder} (hr : r.Reordered r') :
    (g.renderWith plugins templates ds r).1.Reordered (g.renderWith plugins templates ds r').1 ∧
      (g.renderWith plugins templates ds r').2 = (g.renderWith plugins templates ds r).2 := by
  obtain ⟨hkept, hpairs⟩ := renderPairs_reordered (g := g) hplugins (pairsOf ds templates) hr
  exact ⟨hkept, by simp only [renderWith, hpairs]⟩

/-! ## Runs -/

theorem planExtras_reordered (h : Reordered t t') (d : Dialect) (keep : Bool) :
    g.planExtras d keep t' = g.planExtras d keep t := by
  simp only [planExtras, startBarrel, h.loadTemplates, FileTree.read, FileTree.readBytes,
    h.same.exists?, h.same.entry]

theorem plan_reordered (h : Reordered t t') (modules : List GeneratedModule) (ds : List Dialect)
    (keep : Bool) : g.plan modules ds keep t' = g.plan modules ds keep t :=
  plan_congr fun d _ => planExtras_reordered h d keep

theorem prepareDirs_same (keep : Bool) (ds : List Dialect) (h : Same t t') :
    Same (g.prepareDirs keep ds t).1 (g.prepareDirs keep ds t').1 ∧
      (g.prepareDirs keep ds t').2 = (g.prepareDirs keep ds t).2 := by
  induction ds generalizing t t' with
  | nil => exact ⟨h, rfl⟩
  | cons d rest ih =>
    have hcleared : (∃ e, (if keep then .ok (t, false) else t.clear (g.dialectDir d)) = .error e ∧
          (if keep then .ok (t', false) else t'.clear (g.dialectDir d)) = .error e) ∨
        ∃ t₁ t₁' gone, (if keep then .ok (t, false) else t.clear (g.dialectDir d)) = .ok (t₁, gone) ∧
          (if keep then .ok (t', false) else t'.clear (g.dialectDir d)) = .ok (t₁', gone) ∧
          Same t₁ t₁' := by
      cases keep with
      | true => exact .inr ⟨t, t', false, rfl, rfl, h⟩
      | false => exact h.clear (g.dialectDir d)
    simp only [prepareDirs]
    rcases hcleared with ⟨e, he, he'⟩ | ⟨t₁, t₁', gone, he, he', h₁⟩
    · rw [he, he']
      exact ⟨h, rfl⟩
    · rw [he, he']
      have hdirs := h₁.createDirs (g.dialectDir d)
      simp only
      generalize t₁.createDirs (g.dialectDir d) = x at hdirs ⊢
      generalize t₁'.createDirs (g.dialectDir d) = x' at hdirs ⊢
      obtain ⟨t₂, r⟩ := x
      obtain ⟨t₂', r'⟩ := x'
      obtain ⟨h₂, rfl⟩ : Same t₂ t₂' ∧ r' = r := hdirs
      cases r' with
      | error e => exact ⟨h₂, rfl⟩
      | ok u =>
        obtain ⟨hrest, hresult⟩ := ih h₂
        exact ⟨hrest, by simp only [hresult]⟩

theorem writeOut_same (keep : Bool) (ds : List Dialect) (r : FileRegistry) (h : Same t t') :
    Same (g.writeOut keep ds r t).1 (g.writeOut keep ds r t').1 ∧
      (g.writeOut keep ds r t').2 = (g.writeOut keep ds r t).2 := by
  unfold writeOut
  have hprepared := prepareDirs_same (g := g) keep ds h
  generalize g.prepareDirs keep ds t = x at hprepared ⊢
  generalize g.prepareDirs keep ds t' = x' at hprepared ⊢
  obtain ⟨t₁, made⟩ := x
  obtain ⟨t₁', made'⟩ := x'
  obtain ⟨h₁, rfl⟩ : Same t₁ t₁' ∧ made' = made := hprepared
  cases made' with
  | error e => exact ⟨h₁, rfl⟩
  | ok cleared =>
    obtain ⟨hfiles, hstats⟩ := h₁.writeFiles g.outputDir r.inOrder
    exact ⟨hfiles, by simp only [FileRegistry.writeAll, hstats]⟩

theorem wouldClear_same (o : GenerateOptions) (h : Same t t') :
    g.wouldClear o t' = g.wouldClear o t := by
  simp only [wouldClear, funext h.exists?]

theorem generateWith_reordered (hplugins : ∀ plugin ∈ plugins, plugin.Steady) (o : GenerateOptions)
    (h : Reordered t t') :
    Same (g.generateWith plugins o t).1 (g.generateWith plugins o t').1 ∧
      (g.generateWith plugins o t').2 = (g.generateWith plugins o t).2 := by
  unfold generateWith loadTemplates
  rw [h.loadTemplates]
  cases t.loadTemplates g.templatesDir g.manifest.generator.extensions with
  | error e => exact ⟨h.same, rfl⟩
  | ok templates =>
    have hstart : Recorder.Reordered ⟨[], t⟩ ⟨[], t'⟩ := ⟨rfl, h⟩
    have hrendered := renderWith_reordered (g := g) hplugins templates
      (Dialect.selected o.dialects) hstart
    simp only
    generalize g.renderWith plugins templates _ ⟨[], t⟩ = x at hrendered ⊢
    generalize g.renderWith plugins templates _ ⟨[], t'⟩ = x' at hrendered ⊢
    obtain ⟨⟨log, t⟩, rendered⟩ := x
    obtain ⟨⟨log', t'⟩, rendered'⟩ := x'
    obtain ⟨hkept, rfl⟩ : Recorder.Reordered ⟨log, t⟩ ⟨log', t'⟩ ∧ rendered' = rendered := hrendered
    replace h : Reordered t t' := hkept.tree
    simp only
    split
    · exact ⟨h.same, rfl⟩
    · rw [plan_reordered h]
      cases g.plan rendered'.modules (Dialect.selected o.dialects) o.keepExisting t with
      | error e => exact ⟨h.same, rfl⟩
      | ok registry =>
        simp only
        split
        · exact ⟨h.same, by rw [wouldClear_same o h.same]⟩
        · have hout := writeOut_same (g := g) o.keepExisting (Dialect.selected o.dialects) registry
            h.same
          generalize g.writeOut _ _ _ t = x at hout ⊢
          generalize g.writeOut _ _ _ t' = x' at hout ⊢
          obtain ⟨t₁, result⟩ := x
          obtain ⟨t₁', result'⟩ := x'
          obtain ⟨h₁, rfl⟩ : Same t₁ t₁' ∧ result' = result := hout
          cases result' with
          | error e => exact ⟨h₁, rfl⟩
          | ok done => exact ⟨h₁, rfl⟩

/-- **The order in which directories are listed** does not matter. What is listed are the files that
have one of the extensions, each once, strictly in the order of their names. So the same templates are
loaded, the same files are planned, with the same modules and barrels, and a run gives the same answer
and leaves the same files, also while plugins look on that take no notice of that order. -/
theorem run_ignores_order (g : Generator) (plugins : List (Plugin Recorder)) (t t' : FileTree)
    (ht : t.WellFormed) (hperm : t'.entries.Perm t.entries) (hcur : t'.current = t.current)
    (hplugins : ∀ plugin ∈ plugins, plugin.Steady) :
    (∀ dir extensions, t'.listFiles dir extensions = t.listFiles dir extensions ∧
      ∀ paths, t.listFiles dir extensions = .ok paths →
        ∃ names : List String, paths = names.map dir.child ∧ names.Pairwise (· < ·) ∧
          ∀ n, n ∈ names ↔
            (∃ content, t.get? (dir.resolve t.current ++ [n]) = some (.file content)) ∧
              (fileExtension? n).any extensions.contains = true) ∧
    g.loadTemplates t' = g.loadTemplates t ∧
    (∀ d keep, g.planExtras d keep t' = g.planExtras d keep t) ∧
    (∀ modules ds keep, g.plan modules ds keep t' = g.plan modules ds keep t) ∧
    (∀ o, (g.generate o t').2 = (g.generate o t).2 ∧
      Same (g.generate o t).1 (g.generate o t').1) ∧
    ∀ o, (g.generateWith plugins o t').2 = (g.generateWith plugins o t).2 ∧
      Same (g.generateWith plugins o t).1 (g.generateWith plugins o t').1 := by
  have h : Reordered t t' := .of_perm ht hperm hcur
  refine ⟨fun dir extensions => ⟨h.listFiles dir extensions, fun paths hpaths => ?_⟩,
    h.loadTemplates _ _, fun d keep => planExtras_reordered h d keep,
    fun modules ds keep => plan_reordered h modules ds keep, fun o => ?_, fun o => ?_⟩
  · exact FileTree.exists_names_of_listFiles ht hpaths
  · have hnone : ∀ plugin ∈ ([] : List (Plugin Recorder)), plugin.Steady := by simp
    exact (generateWith_reordered (g := g) hnone o h).symm
  · exact (generateWith_reordered hplugins o h).symm

/-- With the entries backwards the directory of the templates is listed backwards, and a run that
writes snapshots gives the same answer. -/
theorem run_ignores_order_backwards :
    ∃ t t' : FileTree, t.WellFormed ∧ t'.current = t.current ∧ t'.entries.Perm t.entries ∧
      t.list ⟨"src/dialect"⟩ = .ok [("a.ts", true), ("b.ts", true)] ∧
      t'.list ⟨"src/dialect"⟩ = .ok [("b.ts", true), ("a.ts", true)] ∧
      t.listFiles ⟨"src/dialect"⟩ ["ts"] = .ok [⟨"src/dialect/a.ts"⟩, ⟨"src/dialect/b.ts"⟩] ∧
      t'.listFiles ⟨"src/dialect"⟩ ["ts"] = .ok [⟨"src/dialect/a.ts"⟩, ⟨"src/dialect/b.ts"⟩] ∧
      (generateWith ⟨.standard, ⟨""⟩⟩ [.writing ⟨"out"⟩] ⟨[.pg], false, false⟩ t).2.toOption.isSome ∧
      (generateWith ⟨.standard, ⟨""⟩⟩ [.writing ⟨"out"⟩] ⟨[.pg], false, false⟩ t').2 =
        (generateWith ⟨.standard, ⟨""⟩⟩ [.writing ⟨"out"⟩] ⟨[.pg], false, false⟩ t).2 := by
  let t : FileTree := ((FileTree.empty.put ⟨"src/dialect/a.ts"⟩ "const a = 1\n").1.put
    ⟨"src/dialect/b.ts"⟩ "const b = 2\n").1
  let t' : FileTree := { t with entries := t.entries.reverse }
  have ht : t.WellFormed := by decide +kernel
  have hperm : t'.entries.Perm t.entries := List.reverse_perm _
  obtain ⟨hfiles, -, -, -, -, hrun⟩ := run_ignores_order ⟨.standard, ⟨""⟩⟩ [.writing ⟨"out"⟩] t t' ht
    hperm rfl fun plugin hm => by
      obtain rfl := List.mem_singleton.1 hm
      exact Plugin.steady_writing _
  have hlisted : t.listFiles ⟨"src/dialect"⟩ ["ts"] =
      .ok [⟨"src/dialect/a.ts"⟩, ⟨"src/dialect/b.ts"⟩] := ok_of_toOption (by decide +kernel)
  exact ⟨t, t', ht, rfl, hperm, ok_of_toOption (by decide +kernel), ok_of_toOption (by decide +kernel),
    hlisted, (hfiles _ _).1.trans hlisted, by decide +kernel, (hrun _).1⟩

end Generator

end Multidialect
