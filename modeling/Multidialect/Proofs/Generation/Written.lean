import Multidialect.Proofs.Generation.Failure
import Multidialect.Proofs.Generation.Prepared

/-! # Written files

What stands where after all files of a run were written. Stubs are written first (`inOrder_eq`), each
where there is none (`get?_stubs`); every other file is written over what was there, so that the last
file that goes to a place stands there at the end (`get?_rest`). Once all files are there they can be
written again, and the same stand there at the end (`rewrite`). A run that succeeds is one that
`Completes` its steps (`completes_of_generate`, `Completes.generate`).
-/

namespace Multidialect

open Path (IsName Component)

/-- The place of a planned file below `base`. -/
def PlannedFile.place (f : PlannedFile) (base : Path) (current : Location) : Location :=
  (base.join f.path).resolve current

namespace FileRegistry

variable {base : Path} {files as bs : List PlannedFile} {f : PlannedFile} {t t' t₁ : FileTree}
  {current l : Location} {text : String}

/-! ## All files can be written -/

/-- All files can be written, and what the tree is then. -/
def Writes (base : Path) (files : List PlannedFile) (t t' : FileTree) : Prop :=
  ∃ stats, writeFiles base files t = (t', .ok stats)

theorem writes_nil : Writes base [] t t' ↔ t' = t := by
  simp [Writes, writeFiles, eq_comm]

theorem writes_cons :
    Writes base (f :: files) t t' ↔
      f.isKept base t = true ∧ Writes base files t t' ∨
        f.isKept base t = false ∧
          ∃ t₁, t.put (base.join f.path) f.content = (t₁, .ok ()) ∧ Writes base files t₁ t' := by
  unfold Writes
  simp only [writeFiles]
  cases hk : f.isKept base t with
  | true =>
    simp only [if_true, true_and, false_and, or_false, Bool.true_eq_false]
    generalize writeFiles base files t = written
    obtain ⟨t₂, r⟩ := written
    cases r <;> simp [Except.map]
  | false =>
    simp only [Bool.false_eq_true, if_false, true_and, false_and, false_or]
    generalize t.put (base.join f.path) f.content = made
    obtain ⟨t₁, r⟩ := made
    cases r with
    | error e => simp
    | ok u =>
      simp only [Prod.mk.injEq, and_true, exists_eq_left']
      generalize writeFiles base files t₁ = written
      obtain ⟨t₂, r⟩ := written
      cases r <;> simp [Except.map]

theorem writes_append :
    Writes base (as ++ bs) t t' ↔ ∃ t₁, Writes base as t t₁ ∧ Writes base bs t₁ t' := by
  induction as generalizing t with
  | nil => simp [writes_nil]
  | cons f as ih =>
    rw [List.cons_append, writes_cons]
    simp only [ih, writes_cons]
    constructor
    · rintro (⟨hk, t₁, h, h'⟩ | ⟨hk, t₂, hput, t₁, h, h'⟩)
      · exact ⟨t₁, .inl ⟨hk, h⟩, h'⟩
      · exact ⟨t₁, .inr ⟨hk, t₂, hput, h⟩, h'⟩
    · rintro ⟨t₁, ⟨hk, h⟩ | ⟨hk, t₂, hput, h⟩, h'⟩
      · exact .inl ⟨hk, t₁, h, h'⟩
      · exact .inr ⟨hk, t₂, hput, t₁, h, h'⟩

theorem Writes.grows (h : Writes base files t t') : FileTree.Grows t t' := by
  obtain ⟨stats, h⟩ := h
  obtain rfl : (writeFiles base files t).1 = t' := congrArg Prod.fst h
  refine writeFiles_induct (P := FileTree.Grows t) (.refl t) fun f _ t₁ h => ?_
  rw [FileTree.put]
  exact h.trans (FileTree.grows_putBytes t₁ _ _)

/-- Writing files changes no file but these. -/
theorem Writes.change (ht : t.WellFormed) (hsteps : ∀ f ∈ files, (base.join f.path).steps ≠ [])
    (h : Writes base files t t') :
    FileTree.Change (fun l => ∃ f ∈ files, f.place base t.current = l) (fun _ => True) t t' := by
  obtain ⟨stats, h⟩ := h
  obtain rfl : (writeFiles base files t).1 = t' := congrArg Prod.fst h
  refine writeFiles_induct (P := FileTree.Change _ _ t) (.refl ht) fun f hf t₁ h => ?_
  rw [FileTree.put]
  refine h.trans ((FileTree.change_putBytes_only h.wellFormed (hsteps f hf) _).mono
    (fun l hl => ⟨f, hf, ?_⟩) fun l hl => .inr hl)
  rw [hl, PlannedFile.place, h.current]

/-! ## Stubs, and other files -/

theorem isKept_of_always (h : f.overwrite = .always) : f.isKept base t = false := by
  simp [PlannedFile.isKept, h]

/-- A stub that can be reached is left alone if anything is there. -/
theorem isKept_of_ifMissing (h : f.overwrite = .ifMissing) (hr : t.Reaches (base.join f.path)) :
    f.isKept base t = (t.get? (f.place base t.current)).isSome := by
  simp [PlannedFile.isKept, h, FileTree.exists?_of_reaches hr, PlannedFile.place]

theorem put_of_reaches (h : t.Reaches (base.join f.path))
    (hd : t.get? (f.place base t.current) ≠ some .directory) :
    t.put (base.join f.path) f.content =
      (t.set (f.place base t.current) (.file f.content.toUTF8), .ok ()) := by
  rw [FileTree.put]
  exact FileTree.putBytes_of_reaches h hd _

/-- **Stubs** of one text are written where nothing is. -/
theorem get?_stubs
    (hstub : ∀ f ∈ files,
      f.overwrite = .ifMissing ∧ f.content = text ∧ t.Reaches (base.join f.path))
    (h : Writes base files t t') (l : Location) :
    t'.get? l =
      if t.get? l = none ∧ ∃ f ∈ files, f.place base t.current = l then some (.file text.toUTF8)
      else t.get? l := by
  induction files generalizing t with
  | nil =>
    obtain rfl := writes_nil.1 h
    simp
  | cons f rest ih =>
    obtain ⟨hover, hcontent, hreach⟩ := hstub f (.head _)
    have hrest := fun f' hf' => hstub f' (List.mem_cons_of_mem f hf')
    have hkept := isKept_of_ifMissing hover hreach
    rcases writes_cons.1 h with ⟨hk, h⟩ | ⟨hk, t₁, hput, h⟩
    · rw [ih hrest h]
      by_cases hl : f.place base t.current = l
      · have hsome : (t.get? l).isSome := by rw [← hl, ← hkept, hk]
        have hne : t.get? l ≠ none := Option.isSome_iff_ne_none.1 hsome
        simp [hne]
      · simp [hl]
    · have hnone : t.get? (f.place base t.current) = none := by
        rw [hk] at hkept
        exact Option.not_isSome_iff_eq_none.1 (by simp [← hkept])
      have hd : t.get? (f.place base t.current) ≠ some .directory := by simp [hnone]
      rw [put_of_reaches hreach hd] at hput
      obtain rfl := (Prod.mk.inj hput).1
      rw [ih (fun f' hf' => ?_) h, FileTree.get?_set]
      · by_cases hl : l = f.place base t.current
        · simp [hl, hnone, hcontent]
        · simp [hl, Ne.symm hl, FileTree.set]
      · obtain ⟨ho, hc, hr⟩ := hrest f' hf'
        exact ⟨ho, hc, hr.grows (FileTree.grows_set hd (.inl ⟨_, rfl⟩))⟩

/-- The last of some files that goes to a place. -/
def lastAt (base : Path) (current : Location) (files : List PlannedFile) (l : Location) :
    Option PlannedFile :=
  (files.filter fun f => f.place base current = l).getLast?

theorem lastAt_cons :
    lastAt base current (f :: files) l =
      (lastAt base current files l).or (if f.place base current = l then some f else none) := by
  unfold lastAt
  rw [List.filter_cons]
  by_cases hl : f.place base current = l
  · simp only [hl, decide_true, if_true, List.getLast?_cons]
    cases (files.filter fun f => decide (f.place base current = l)).getLast? <;> rfl
  · simp [hl]

theorem lastAt_append :
    lastAt base current (as ++ bs) l =
      (lastAt base current bs l).or (lastAt base current as l) := by
  simp [lastAt, List.getLast?_append]

theorem mem_of_lastAt (h : lastAt base current files l = some f) :
    f ∈ files ∧ f.place base current = l := by
  have hm := List.mem_filter.1 (List.mem_of_getLast? h)
  exact ⟨hm.1, by simpa using hm.2⟩

theorem lastAt_eq_none_iff :
    lastAt base current files l = none ↔ ∀ f ∈ files, f.place base current ≠ l := by
  simp [lastAt]

/-- **Other files** are written over what was there: the last one stands there at the end. -/
theorem get?_rest (ht : t.WellFormed) (hsteps : ∀ f ∈ files, (base.join f.path).steps ≠ [])
    (hover : ∀ f ∈ files, f.overwrite = .always) (h : Writes base files t t')
    (content : ByteArray) :
    t'.get? l = some (.file content) ↔
      match lastAt base t.current files l with
      | some f => content = f.content.toUTF8
      | none => t.get? l = some (.file content) := by
  induction files generalizing t with
  | nil =>
    obtain rfl := writes_nil.1 h
    rfl
  | cons f rest ih =>
    rcases writes_cons.1 h with ⟨hk, -⟩ | ⟨-, t₁, hput, h⟩
    · rw [isKept_of_always (hover f (.head _))] at hk
      cases hk
    · rw [FileTree.put] at hput
      have hchange := FileTree.change_putBytes_only ht (hsteps f (.head _)) f.content.toUTF8
      rw [hput] at hchange
      rw [ih hchange.wellFormed (fun f' hf' => hsteps f' (.tail _ hf'))
        (fun f' hf' => hover f' (.tail _ hf')) h, hchange.current, lastAt_cons]
      cases lastAt base t.current rest l with
      | some f' => rfl
      | none =>
        by_cases hl : f.place base t.current = l
        · subst hl
          simp [FileTree.get?_putBytes ht hput, PlannedFile.place, eq_comm]
        · -- elsewhere no file is made and none goes away
          simp only [hl, if_false, Option.or_none]
          rcases hchange.get? l (Ne.symm hl) with he | ⟨-, hn, hd⟩
          · rw [he]
          · simp [hn, hd]

/-! ## Files that are there -/

/-- Once all files are written, something stands in the place of each, and files that are written over
what was there are reached. -/
theorem Writes.there (ht : t.WellFormed) (hsteps : ∀ f ∈ files, (base.join f.path).steps ≠ [])
    (h : Writes base files t t') :
    ∀ f ∈ files, (t'.get? (f.place base t'.current)).isSome ∧
      (f.overwrite = .always → t'.Reaches (base.join f.path) ∧
        ∃ content, t'.get? (f.place base t'.current) = some (.file content)) := by
  induction files generalizing t with
  | nil => simp
  | cons f rest ih =>
    have hrest := fun f' hf' => hsteps f' (List.mem_cons_of_mem f hf')
    rcases writes_cons.1 h with ⟨hk, h⟩ | ⟨-, t₁, hput, h⟩
    · refine List.forall_mem_cons.2 ⟨⟨?_, fun ho => ?_⟩, ih ht hrest h⟩
      · obtain ⟨⟨l, e⟩, hentry⟩ := exists_ok_of_toOption (And.right (by
          simpa [PlannedFile.isKept, FileTree.exists?] using hk))
        obtain ⟨rfl, hget⟩ := FileTree.entry_eq_ok hentry
        rw [PlannedFile.place, h.grows.current]
        exact h.grows.isSome (by simp [hget])
      · rw [isKept_of_always ho] at hk
        cases hk
    · rw [FileTree.put] at hput
      have hwf := (FileTree.change_putBytes_only ht (hsteps f (.head _)) f.content.toUTF8).wellFormed
      have hgrows := FileTree.grows_putBytes t (base.join f.path) f.content.toUTF8
      rw [hput] at hwf hgrows
      obtain ⟨content, hfile⟩ := h.grows.file _ _ (FileTree.get?_putBytes ht hput)
      have hplace : f.place base t'.current = (base.join f.path).resolve t.current := by
        rw [PlannedFile.place, h.grows.current, hgrows.current]
      refine List.forall_mem_cons.2 ⟨⟨?_, fun _ => ⟨?_, content, ?_⟩⟩, ih hwf hrest h⟩
      · rw [hplace, hfile]
        rfl
      · exact (FileTree.reaches_of_putBytes (hsteps f (.head _)) hput).grows h.grows
      · rw [hplace, hfile]

/-- **Files that are there can be written again**: stubs are left alone, and of the others the last one
stands in each place. -/
theorem rewrite (hreach : ∀ f ∈ files, t.Reaches (base.join f.path))
    (hthere : ∀ f ∈ files, (t.get? (f.place base t.current)).isSome ∧
      (f.overwrite = .always →
        ∃ content, t.get? (f.place base t.current) = some (.file content))) :
    ∃ t', Writes base files t t' ∧ t'.current = t.current ∧ ∀ l, t'.get? l =
      match lastAt base t.current (files.filter (·.overwrite = .always)) l with
      | some f => some (.file f.content.toUTF8)
      | none => t.get? l := by
  induction files generalizing t with
  | nil => exact ⟨t, writes_nil.2 rfl, rfl, fun l => rfl⟩
  | cons f rest ih =>
    obtain ⟨hsome, hfile⟩ := hthere f (.head _)
    have hreach' := fun f' hf' => hreach f' (List.mem_cons_of_mem f hf')
    have hthere' := fun f' hf' => hthere f' (List.mem_cons_of_mem f hf')
    cases ho : f.overwrite with
    | ifMissing =>
      obtain ⟨t', h, hcur, hget⟩ := ih hreach' hthere'
      have hk := isKept_of_ifMissing ho (hreach f (.head _))
      exact ⟨t', writes_cons.2 (.inl ⟨hk.trans hsome, h⟩), hcur, by simpa [ho] using hget⟩
    | always =>
      obtain ⟨content, hf⟩ := hfile ho
      have hd : t.get? (f.place base t.current) ≠ some .directory := by simp [hf]
      have hput := put_of_reaches (hreach f (.head _)) hd
      have hgrows := FileTree.grows_set (e := .file f.content.toUTF8) hd (.inl ⟨_, rfl⟩)
      obtain ⟨t', h, hcur, hget⟩ := ih
        (t := t.set (f.place base t.current) (.file f.content.toUTF8))
        (fun f' hf' => (hreach' f' hf').grows hgrows) fun f' hf' =>
          ⟨hgrows.isSome (hthere' f' hf').1, fun ho' => by
            obtain ⟨content', hf'⟩ := (hthere' f' hf').2 ho'
            exact hgrows.file _ _ hf'⟩
      refine ⟨t', writes_cons.2 (.inr ⟨isKept_of_always ho, _, hput, h⟩), hcur, fun l => ?_⟩
      rw [hget, List.filter_cons, ho, decide_eq_true rfl, if_pos rfl, lastAt_cons]
      show (match lastAt base t.current (rest.filter (·.overwrite = .always)) l with
        | some f => _
        | none => _) = _
      cases lastAt base t.current (rest.filter (·.overwrite = .always)) l with
      | some f' => rfl
      | none =>
        rw [FileTree.get?_set]
        by_cases hl : f.place base t.current = l
        · simp [hl]
        · simp [hl, Ne.symm hl]

/-! ## The order of writing -/

theorem eq_filter_append {α : Type} {p : α → Bool} {xs : List α}
    (h : xs.Pairwise fun a b => p b = true → p a = true) :
    xs = xs.filter p ++ xs.filter (!p ·) := by
  induction xs with
  | nil => rfl
  | cons a xs ih =>
    obtain ⟨ha, hxs⟩ := List.pairwise_cons.1 h
    cases hp : p a with
    | true => simpa [hp] using ih hxs
    | false =>
      have hnone : ∀ b ∈ xs, p b = false := fun b hb =>
        Bool.eq_false_iff.2 fun hpb => by simp [ha b hb hpb] at hp
      have hnil : xs.filter p = [] := List.filter_eq_nil_iff.2 fun b hb => by simp [hnone b hb]
      have hall : xs.filter (!p ·) = xs := List.filter_eq_self.2 fun b hb => by simp [hnone b hb]
      simp [hp, hnil, hall]

theorem mem_inOrder {r : FileRegistry} {f : PlannedFile} : f ∈ r.inOrder ↔ f ∈ r.files :=
  (sortBy_perm _ _).mem_iff

theorem pairwise_inOrder (r : FileRegistry) :
    r.inOrder.Pairwise fun a b => a.category.index ≤ b.category.index := by
  unfold inOrder
  refine (pairwise_sortBy (fun a b => ?_) (fun a b c => ?_) r.files).imp fun h => by simpa using h
  · simpa using Nat.le_total _ _
  · simpa using Nat.le_trans

/-- **Stubs come first.** -/
theorem inOrder_eq {r : FileRegistry}
    (h : ∀ f ∈ r.files, f.overwrite = .ifMissing ↔ f.category = .config) :
    r.inOrder = r.inOrder.filter (·.overwrite = .ifMissing) ++
      r.inOrder.filter (·.overwrite = .always) := by
  have hfirst : r.inOrder.Pairwise fun a b =>
      decide (b.overwrite = .ifMissing) = true → decide (a.overwrite = .ifMissing) = true := by
    refine r.pairwise_inOrder.imp_of_mem fun {a b} ha hb hle hover => ?_
    have hb := (h b (mem_inOrder.1 hb)).1 (by simpa using hover)
    have hindex : a.category.index = 0 := by
      rw [hb] at hle
      exact Nat.le_zero.1 hle
    refine decide_eq_true ((h a (mem_inOrder.1 ha)).2 ?_)
    cases hc : a.category <;> simp [hc, Category.index] at hindex
    rfl
  have hother : ∀ f : PlannedFile, (!decide (f.overwrite = .ifMissing)) = decide (f.overwrite = .always) := by
    intro f
    cases f.overwrite <;> rfl
  have heq := eq_filter_append hfirst
  simpa only [hother] using heq

end FileRegistry

namespace Generator

variable {g : Generator} {ds : List Dialect} {d : Dialect} {t t' t₁ : FileTree} {keep : Bool}
  {r : FileRegistry} {f : PlannedFile} {l : Location}

/-! ## The files of a plan -/

/-- The text of every stub. -/
def stubText (g : Generator) : String := tsconfigStub g.manifest.generator.tsconfigExtends

/-- The place of a dialect's stub. -/
def stubPlace (g : Generator) (d : Dialect) (base : Location) : Location :=
  (g.dialectDir d).resolve base ++ ["tsconfig.json"]

theorem mem_planStub_iff :
    f ∈ g.planStub d ↔ g.manifest.generator.tsconfig = true ∧
      f = .stub ((Path.mk d.name).child "tsconfig.json") g.manifest.generator.tsconfigExtends
        .config := by
  unfold planStub
  cases h : g.manifest.generator.tsconfig <;> simp [h]

theorem place_of_mem_planStub (h : f ∈ g.planStub d) (base : Location) :
    f.place g.outputDir base = g.stubPlace d base := by
  have hsteps := targetSteps_of_mem_planStub h
  rw [targetSteps] at hsteps
  rw [PlannedFile.place, Path.resolve, hsteps, List.foldl_append]
  rfl

/-- A stub can be reached where its directory is there. -/
theorem reaches_of_mem_planStub (hlead : t.Leads (g.dialectDir d)) (h : f ∈ g.planStub d) :
    t.Reaches (g.outputDir.join f.path) := by
  refine FileTree.reaches_of_leads hlead (s := "tsconfig.json") (by decide)
    (targetSteps_of_mem_planStub h) ?_
  rw [(mem_planStub_iff.1 h).2]
  exact (FileTree.suffix_join ⟨d.name⟩ ⟨"tsconfig.json"⟩).trans (FileTree.suffix_join _ _)

/-- A planned file is a stub, or is written over what is there. -/
theorem stub_or_always {modules : List GeneratedModule} (h : g.plan modules ds keep t = .ok r)
    (hf : f ∈ r.files) :
    (∃ d ∈ ds, f ∈ g.planStub d) ∨ f.category ≠ .config ∧ f.overwrite = .always := by
  obtain ⟨d, hd, files, hpd, hf⟩ := planDialect_of_mem_plan h hf
  obtain ⟨extras, he, rfl⟩ := planDialect_eq_ok hpd
  rcases List.mem_append.1 hf with hf | hf
  · rcases List.mem_append.1 hf with hf | hf
    · exact .inl ⟨d, hd, hf⟩
    · obtain ⟨x, -, rfl⟩ := List.mem_map.1 hf
      exact .inr ⟨by simp [PlannedFile.ofCategory], rfl⟩
  · rcases planExtras_eq_ok he with ⟨-, rfl⟩ | ⟨dir, xs, text, -, -, rfl⟩
    · cases hf
    · rcases List.mem_append.1 hf with hf | hf
      · obtain ⟨x, -, rfl⟩ := List.mem_map.1 hf
        exact .inr ⟨by simp [extraFile, PlannedFile.ofCategory], rfl⟩
      · obtain rfl := List.mem_singleton.1 hf
        exact .inr ⟨by simp [barrelFile, PlannedFile.ofCategory], rfl⟩

theorem overwrite_iff {modules : List GeneratedModule} (h : g.plan modules ds keep t = .ok r)
    (hf : f ∈ r.files) : f.overwrite = .ifMissing ↔ f.category = .config := by
  rcases stub_or_always h hf with ⟨d, -, hs⟩ | ⟨hc, ho⟩
  · obtain ⟨-, rfl⟩ := mem_planStub_iff.1 hs
    exact ⟨fun _ => rfl, fun _ => rfl⟩
  · simp [hc, ho]

/-- The stubs of a plan, and the other files. -/
theorem stub_of_ifMissing {modules : List GeneratedModule} (h : g.plan modules ds keep t = .ok r)
    (hf : f ∈ r.inOrder.filter (·.overwrite = .ifMissing)) : ∃ d ∈ ds, f ∈ g.planStub d := by
  obtain ⟨hf, ho⟩ := List.mem_filter.1 hf
  refine (stub_or_always h (FileRegistry.mem_inOrder.1 hf)).resolve_right fun ⟨_, ha⟩ => ?_
  simp [ha] at ho

/-- **The files of a run**: the last one that is planned for a place stands there, or a stub where
nothing was, or what was there before. -/
theorem get?_written {modules : List GeneratedModule} (ht₁ : t₁.WellFormed)
    (hlead : ∀ d ∈ ds, t₁.Leads (g.dialectDir d)) (h : g.plan modules ds keep t = .ok r)
    (hsteps : ∀ f ∈ r.files, g.targetSteps f ≠ [])
    (hw : FileRegistry.Writes g.outputDir r.inOrder t₁ t') (content : ByteArray) :
    t'.get? l = some (.file content) ↔
      match FileRegistry.lastAt g.outputDir t₁.current (r.inOrder.filter (·.overwrite = .always)) l with
      | some f => content = f.content.toUTF8
      | none => t₁.get? l = some (.file content) ∨
          t₁.get? l = none ∧ (∃ f ∈ r.inOrder.filter (·.overwrite = .ifMissing),
            f.place g.outputDir t₁.current = l) ∧ content = g.stubText.toUTF8 := by
  rw [FileRegistry.inOrder_eq fun f hf => overwrite_iff h hf] at hw
  obtain ⟨t₂, hstubs, hrest⟩ := FileRegistry.writes_append.1 hw
  have hstep : ∀ f ∈ r.inOrder, (g.outputDir.join f.path).steps ≠ [] := fun f hf =>
    hsteps f (FileRegistry.mem_inOrder.1 hf)
  have hstub : ∀ f ∈ r.inOrder.filter (·.overwrite = .ifMissing),
      f.overwrite = .ifMissing ∧ f.content = g.stubText ∧ t₁.Reaches (g.outputDir.join f.path) := by
    intro f hf
    obtain ⟨d, hd, hs⟩ := stub_of_ifMissing h hf
    refine ⟨by simpa using (List.mem_filter.1 hf).2, ?_, reaches_of_mem_planStub (hlead d hd) hs⟩
    rw [(mem_planStub_iff.1 hs).2]
    rfl
  have hchange := hstubs.change ht₁ fun f hf => hstep f (List.mem_filter.1 hf).1
  rw [FileRegistry.get?_rest hchange.wellFormed (fun f hf => hstep f (List.mem_filter.1 hf).1)
    (fun f hf => by simpa using (List.mem_filter.1 hf).2) hrest, hchange.current]
  split
  · rfl
  · rw [FileRegistry.get?_stubs hstub hstubs l]
    split
    · rename_i hnew
      simp only [hnew.1, hnew.2, true_and, Option.some.injEq, FileEntry.file.injEq, reduceCtorEq,
        false_or]
      exact eq_comm
    · rename_i hold
      constructor
      · exact .inl
      · rintro (he | ⟨hn, hf, -⟩)
        · exact he
        · exact absurd ⟨hn, hf⟩ hold

/-! ## Runs, step by step -/

/-- A run that plans files, prepares the directories and writes the files. -/
structure Completes (g : Generator) (o : GenerateOptions) (t : FileTree) (ts : List Template)
    (r : FileRegistry) (t₁ t' : FileTree) : Prop where
  plans : g.Plans o t ts r
  prepared : ∃ cleared,
    g.prepareDirs o.keepExisting (Dialect.selected o.dialects) t = (t₁, .ok cleared)
  written : FileRegistry.Writes g.outputDir r.inOrder t₁ t'

variable {o : GenerateOptions} {ts : List Template}

/-- **A run that succeeds** completes its steps. -/
theorem completes_of_generate (hdry : o.dryRun = false) {outcome : GenerateOutcome}
    (h : g.generate o t = (t', .ok outcome)) :
    ∃ ts r t₁, g.Completes o t ts r t₁ t' ∧ outcome.files = r.inOrder := by
  obtain ⟨ts, r, t₁, cleared, stats, hplans, hp, hw, rfl⟩ := (generate_eq_ok_iff hdry).1 h
  exact ⟨ts, r, t₁, ⟨hplans, ⟨cleared, hp⟩, ⟨stats, hw⟩⟩, rfl⟩

theorem Completes.generate (hdry : o.dryRun = false) (h : g.Completes o t ts r t₁ t') :
    ∃ outcome, g.generate o t = (t', .ok outcome) ∧ outcome.files = r.inOrder := by
  obtain ⟨hplans, ⟨cleared, hp⟩, ⟨stats, hw⟩⟩ := h
  exact ⟨_, (generate_eq_ok_iff hdry).2 ⟨ts, r, t₁, cleared, stats, hplans, hp, hw, rfl⟩, rfl⟩

theorem Completes.steps_ne_nil (hm : g.manifest.Valid) (ht : t.WellFormed)
    (h : g.Completes o t ts r t₁ t') : ∀ f ∈ r.files, g.targetSteps f ≠ [] := fun _ =>
  targetSteps_ne_nil hm ht
    (fun x hx => ((FileTree.loadTemplates_eq_ok ht h.plans.loaded).2 x hx).1) h.plans.planned

/-- The prepared tree of a run. -/
theorem Completes.prepares (ht : t.WellFormed) (h : g.Completes o t ts r t₁ t') :
    t₁.WellFormed ∧ t₁.current = t.current ∧
      ∀ d ∈ Dialect.selected o.dialects, t₁.Leads (g.dialectDir d) := by
  obtain ⟨cleared, hp⟩ := h.prepared
  have hchange := change_prepareDirs (g := g) (Dialect.selected o.dialects) ht o.keepExisting
  rw [hp] at hchange
  exact ⟨hchange.wellFormed, hchange.current, leads_prepareDirs ht hp⟩

/-- The tree that a run leaves. -/
theorem Completes.wellFormed (hm : g.manifest.Valid) (ht : t.WellFormed)
    (h : g.Completes o t ts r t₁ t') : t'.WellFormed ∧ t'.current = t.current := by
  obtain ⟨ht₁, hcur, -⟩ := h.prepares ht
  have hchange := h.written.change ht₁ fun f hf =>
    h.steps_ne_nil hm ht f (FileRegistry.mem_inOrder.1 hf)
  exact ⟨hchange.wellFormed, hchange.current.trans hcur⟩

theorem Completes.there (hm : g.manifest.Valid) (ht : t.WellFormed)
    (h : g.Completes o t ts r t₁ t') :
    ∀ f ∈ r.inOrder, (t'.get? (f.place g.outputDir t'.current)).isSome ∧
      (f.overwrite = .always → t'.Reaches (g.outputDir.join f.path) ∧
        ∃ content, t'.get? (f.place g.outputDir t'.current) = some (.file content)) :=
  h.written.there (h.prepares ht).1 fun f hf =>
    h.steps_ne_nil hm ht f (FileRegistry.mem_inOrder.1 hf)

end Generator

end Multidialect
