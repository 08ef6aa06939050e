import Multidialect.Proofs.Files.Reach
import Multidialect.Proofs.Generation.Confinement

/-! # Prepared directories

What stands where after the directories of the selected dialects were cleared and made. If the path
of the first one finds what stands there, nothing is left in any of them (`rebuilt_prepareDirs`): when
the first one is made, the way to the others is there, and so their paths find them. For the same
reason the first directory is the only one of which it can be told beforehand whether it will be
cleared; another one may only appear when the way to it is made (`cleared_prepareDirs`). The first
directory is always found if the path of the output never goes up again after it went down
(`findsFirst_of_straight`).
-/

namespace Multidialect

open Path (IsName Component)

namespace FileTree

variable {t t' t'' : FileTree} {in₁ in₂ way₁ way₂ : Location → Prop}

/-! ## Locations that start afresh -/

/-- What is inside is gone, what is on the way is a directory, and nothing else has changed; the
current directory is not inside. -/
structure Rebuilt (inside onWay : Location → Prop) (t t' : FileTree) : Prop where
  wellFormed : t'.WellFormed
  current : t'.current = t.current
  stays : ¬ inside t.current
  made : ∀ l, onWay l → t'.get? l = some .directory
  gone : ∀ l, ¬ onWay l → inside l → t'.get? l = none
  kept : ∀ l, ¬ onWay l → ¬ inside l → t'.get? l = t.get? l

theorem Rebuilt.refl (ht : t.WellFormed) : Rebuilt (fun _ => False) (fun _ => False) t t :=
  ⟨ht, rfl, fun h => h, fun _ h => h.elim, fun _ _ h => h.elim, fun _ _ _ => rfl⟩

theorem Rebuilt.trans (h : Rebuilt in₁ way₁ t t') (h' : Rebuilt in₂ way₂ t' t'')
    (hway : ∀ l, way₁ l → in₂ l → way₂ l) :
    Rebuilt (fun l => in₁ l ∨ in₂ l) (fun l => way₁ l ∨ way₂ l) t t'' := by
  refine ⟨h'.wellFormed, h'.current.trans h.current, ?_, fun l hl => ?_, fun l hl hin => ?_,
    fun l hl hin => ?_⟩
  · rintro (hin | hin)
    · exact h.stays hin
    · exact h'.stays (h.current ▸ hin)
  · by_cases hl₂ : way₂ l
    · exact h'.made l hl₂
    · have hl₁ := hl.resolve_right hl₂
      rw [h'.kept l hl₂ fun hin => hl₂ (hway l hl₁ hin)]
      exact h.made l hl₁
  · obtain ⟨hl₁, hl₂⟩ := not_or.1 hl
    by_cases hin₂ : in₂ l
    · exact h'.gone l hl₂ hin₂
    · rw [h'.kept l hl₂ hin₂]
      exact h.gone l hl₁ (hin.resolve_right hin₂)
  · obtain ⟨hl₁, hl₂⟩ := not_or.1 hl
    obtain ⟨hin₁, hin₂⟩ := not_or.1 hin
    rw [h'.kept l hl₂ hin₂, h.kept l hl₁ hin₁]

theorem Rebuilt.congr (h : Rebuilt in₁ way₁ t t') (hin : ∀ l, in₁ l ↔ in₂ l)
    (hway : ∀ l, way₁ l ↔ way₂ l) : Rebuilt in₂ way₂ t t' := by
  obtain rfl : in₁ = in₂ := funext fun l => propext (hin l)
  obtain rfl : way₁ = way₂ := funext fun l => propext (hway l)
  exact h

/-! ## One directory -/

/-- What is above anything is a directory. -/
theorem WellFormed.directory_above (ht : t.WellFormed) {l k : Location} {e : FileEntry}
    (hpre : l <+: k) (hne : l ≠ k) (hk : t.get? k = some e) : t.get? l = some .directory := by
  induction k using List.reverseRecOn generalizing e with
  | nil => exact absurd (List.prefix_nil.1 hpre) hne
  | append_singleton k n ih =>
    have hparent : t.get? k = some .directory := by
      simpa using ht.parent _ (mem_of_get? hk) (by simp)
    have hpre := (List.prefix_concat_iff.1 hpre).resolve_left hne
    by_cases he : l = k
    · exact he ▸ hparent
    · exact ih hpre he hparent

/-- What stands behind some steps up and then names down is reached. -/
theorem reaches_of_straight (ht : t.WellFormed) (hbase : t.get? t.current = some .directory)
    {p : Path} {ups : List Component} {names : List String} {s : String}
    (hsteps : p.steps = ups ++ (names.map .name ++ [.name s])) (hups : ∀ c ∈ ups, ∀ s, c ≠ .name s)
    (hbare : p.namesDir = false) (hsome : (t.get? (p.resolve t.current)).isSome) : t.Reaches p := by
  have hup : ∀ front, front <+: ups → t.get? (front.foldl step t.current) = some .directory := by
    intro front hfront
    induction front using List.reverseRecOn with
    | nil => exact hbase
    | append_singleton front c ih =>
      have hdir := ih ((List.prefix_append _ _).trans hfront)
      rw [List.foldl_append]
      show t.get? (step (front.foldl step t.current) c) = some .directory
      have hc := hups c (hfront.subset (by simp))
      cases c with
      | name s => exact absurd rfl (hc s)
      | here => exact hdir
      | up => exact ht.parent_of_get? hdir
      | root =>
        by_cases he : [] = front.foldl step t.current
        · exact he ▸ hdir
        · exact ht.directory_above List.nil_prefix he hdir
  refine ⟨by simp [hsteps], hbare, fun front hfront => ?_⟩
  rw [hsteps, ← List.append_assoc, List.dropLast_concat] at hfront
  rcases List.prefix_or_prefix_of_prefix hfront (List.prefix_append _ _) with hpre | ⟨rest, rfl⟩
  · exact hup front hpre
  · -- behind the steps up there are only names, and what is above them is a directory
    obtain ⟨ns, hns, rfl⟩ := List.prefix_map_iff.1 ((List.prefix_append_right_inj _).1 hfront)
    obtain ⟨e, he⟩ := Option.isSome_iff_exists.1 hsome
    have hend : p.resolve t.current = ups.foldl step t.current ++ (names ++ [s]) := by
      rw [Path.resolve, hsteps, List.foldl_append, ← List.map_singleton, ← List.map_append,
        Path.foldl_step_names]
    rw [hend] at he
    rw [List.foldl_append, Path.foldl_step_names]
    refine ht.directory_above ((List.prefix_append_right_inj _).2
      (hns.trans (List.prefix_append _ _))) (fun heq => ?_) he
    have hlen := congrArg List.length (List.append_cancel_left heq)
    have hle := hns.length_le
    simp at hlen
    omega

theorem gone_eq_exists? {p : Path} {gone : Bool} (h : t.clear p = .ok (t', gone)) :
    gone = t.exists? p := by
  unfold clear at h
  split at h
  · rename_i he
    obtain ⟨t'', -, hpair⟩ := map_eq_ok.1 h
    rw [he]
    exact (Prod.mk.inj hpair).2.symm
  · rename_i he
    obtain ⟨-, rfl⟩ := Prod.mk.inj (Except.ok.inj h)
    exact (Bool.eq_false_iff.2 he).symm

/-- Clearing a directory that its path finds leaves nothing. -/
theorem get?_clear_of_finds (ht : t.WellFormed) {p : Path} {gone : Bool} (hp : t.Finds p)
    (h : t.clear p = .ok (t', gone)) (l : Location) :
    t'.get? l = if p.resolve t.current <+: l then none else t.get? l := by
  have hgone := gone_eq_exists? h
  rcases clear_eq_ok h with ⟨rfl, rfl⟩ | ⟨rfl, -, rfl⟩
  · -- nothing was there, and so there was nothing below
    have hnone : t'.get? (p.resolve t'.current) = none := by
      refine Option.not_isSome_iff_eq_none.1 fun hs => ?_
      rw [hp hs] at hgone
      cases hgone
    split
    · rename_i hpre
      refine Option.eq_none_iff_forall_ne_some.2 fun e he => ?_
      by_cases hl : p.resolve t'.current = l
      · rw [← hl, hnone] at he
        cases he
      · rw [ht.directory_above hpre hl he] at hnone
        cases hnone
    · rfl
  · exact get?_removeBelow t _ l

/-- A directory that its path finds is cleared and made. -/
theorem rebuilt_of_clear (ht : t.WellFormed) {p : Path} (hsteps : p.steps ≠ []) (hp : t.Finds p)
    {gone : Bool} (hc : t.clear p = .ok (t', gone)) (hm : t'.createDirs p = (t'', .ok ())) :
    Rebuilt (p.resolve t.current <+: ·) (p.Passes t.current) t t'' := by
  have hclear := change_clear ht hc
  have hmake := change_createDirs hclear.wellFormed p
  rw [hm, hclear.current] at hmake
  have hget := get?_clear_of_finds ht hp hc
  have hway : ∀ l, ¬ p.Passes t.current l → t''.get? l = t'.get? l := fun l hl =>
    (hmake.get? l fun hf => hf).resolve_right fun h => hl h.1
  refine ⟨hmake.wellFormed, hmake.current.trans hclear.current, fun hin => ?_, fun l hl => ?_,
    fun l hl hin => ?_, fun l hl hin => ?_⟩
  · -- nothing is made from a current directory that is gone
    have hbase := base_of_createDirs hsteps (congrArg Prod.snd hm)
    rw [hclear.current, hget, if_pos hin] at hbase
    cases hbase
  · refine leads_of_createDirs hsteps hm l ?_
    rwa [hmake.current, hclear.current]
  · rw [hway l hl, hget, if_pos hin]
  · rw [hway l hl, hget, if_neg hin]

theorem clear_ok {p : Path} (h : ∀ content, t.get? (p.resolve t.current) ≠ some (.file content)) :
    ∃ t' gone, t.clear p = .ok (t', gone) := by
  unfold clear
  split
  · rename_i he
    obtain ⟨⟨l, e⟩, hentry⟩ := exists_ok_of_toOption he
    obtain ⟨rfl, hget⟩ := entry_eq_ok hentry
    cases e with
    | file content => exact absurd hget (h content)
    | directory =>
      refine ⟨t.removeBelow (p.resolve t.current), true, ?_⟩
      simp [removeDir, hentry, FileFault.during, bind, Except.bind, Except.mapError, Except.map]
  · exact ⟨t, false, rfl⟩

end FileTree

theorem Dialect.nodup_selected (dialects : List Dialect) : (Dialect.selected dialects).Nodup :=
  List.filter_sublist.nodup (by decide)

theorem Dialect.selected_ne_nil (dialects : List Dialect) : Dialect.selected dialects ≠ [] := by
  cases dialects with
  | nil => decide
  | cons d rest => exact List.ne_nil_of_mem (List.mem_filter.2 ⟨Dialect.mem_all d, by simp⟩)

namespace Generator

variable {g : Generator} {ds rest : List Dialect} {d d' : Dialect} {base : Location}
  {t t' t'' : FileTree} {keep : Bool} {cleared : List Path}

/-! ## The directories of the dialects -/

theorem steps_dialectDir_ne_nil (g : Generator) (d : Dialect) : (g.dialectDir d).steps ≠ [] := by
  simp [steps_dialectDir]

theorem prefix_dialectDir (g : Generator) (d : Dialect) :
    g.outputDir.steps <+: (g.dialectDir d).steps := by
  rw [steps_dialectDir]
  exact List.prefix_append _ _

theorem resolve_dialectDir_eq (g : Generator) (d : Dialect) (base : Location) :
    (g.dialectDir d).resolve base = g.outputDir.resolve base ++ [d.name] :=
  Path.resolve_child _ (Path.isName_dialect d) base

/-- The way to the directory of a dialect is that to the output, and one step. -/
theorem passes_dialectDir {l : Location} :
    (g.dialectDir d).Passes base l ↔
      g.outputDir.Passes base l ∨ l = (g.dialectDir d).resolve base := by
  unfold Path.Passes
  rw [steps_dialectDir]
  simp only [List.prefix_concat_iff]
  constructor
  · rintro ⟨front, rfl | hf, rfl⟩
    · exact .inr (by rw [Path.resolve, steps_dialectDir])
    · exact .inl ⟨front, hf, rfl⟩
  · rintro (⟨front, hf, rfl⟩ | rfl)
    · exact ⟨front, .inr hf, rfl⟩
    · exact ⟨_, .inl rfl, by rw [Path.resolve, steps_dialectDir]⟩

theorem dialect_eq_of_below
    (h : (g.dialectDir d).resolve base <+: (g.dialectDir d').resolve base) : d = d' := by
  rw [resolve_dialectDir_eq, resolve_dialectDir_eq] at h
  have he := h.eq_of_length (by simp)
  exact Dialect.name_inj.1 (by simpa using he)

theorem inside_cons {l : Location} :
    g.Inside (d :: rest) base l ↔ (g.dialectDir d).resolve base <+: l ∨ g.Inside rest base l := by
  simp [Inside]

theorem onWay_cons {l : Location} :
    g.OnWay (d :: rest) base l ↔ (g.dialectDir d).Passes base l ∨ g.OnWay rest base l := by
  simp [OnWay]

theorem reaches_dialectDir (h : t.Leads g.outputDir) (d : Dialect) : t.Reaches (g.dialectDir d) :=
  FileTree.reaches_child h (Path.isName_dialect d)

/-! ## One dialect after another -/

/-- Preparing directories succeeds with each of them in turn. -/
theorem prepareDirs_cons_eq_ok
    (h : g.prepareDirs keep (d :: rest) t = (t', .ok cleared)) :
    ∃ t₁ gone t₂ more,
      (if keep then .ok (t, false) else t.clear (g.dialectDir d)) = .ok (t₁, gone) ∧
      t₁.createDirs (g.dialectDir d) = (t₂, .ok ()) ∧
      g.prepareDirs keep rest t₂ = (t', .ok more) ∧
      cleared = if gone then g.dialectDir d :: more else more := by
  simp only [prepareDirs] at h
  split at h
  · cases (Prod.mk.inj h).2
  · rename_i t₁ gone hc
    split at h
    · cases (Prod.mk.inj h).2
    · rename_i t₂ hm
      obtain ⟨rfl, hr⟩ := Prod.mk.inj h
      obtain ⟨more, hmore, rfl⟩ := map_eq_ok.1 hr
      exact ⟨t₁, gone, t₂, more, hc, hm, Prod.ext rfl hmore, rfl⟩

/-- When the directory of a dialect is made, the way to the output is there. -/
theorem leads_outputDir (h : t.createDirs (g.dialectDir d) = (t', .ok ())) : t'.Leads g.outputDir :=
  FileTree.leads_of_prefix (FileTree.leads_of_createDirs (steps_dialectDir_ne_nil g d) h)
    (prefix_dialectDir g d)

/-- **Prepared directories** are where their paths lead. -/
theorem leads_prepareDirs (ht : t.WellFormed) (h : g.prepareDirs keep ds t = (t', .ok cleared)) :
    ∀ d ∈ ds, t'.Leads (g.dialectDir d) := by
  induction ds generalizing t cleared with
  | nil => simp
  | cons d rest ih =>
    obtain ⟨t₁, gone, t₂, more, hc, hm, hrest, -⟩ := prepareDirs_cons_eq_ok h
    have ht₁ : t₁.WellFormed := by
      split at hc
      · obtain ⟨rfl, -⟩ := Prod.mk.inj (Except.ok.inj hc)
        exact ht
      · exact (FileTree.change_clear ht hc).wellFormed
    have ht₂ := (FileTree.change_createDirs ht₁ (g.dialectDir d)).wellFormed
    rw [hm] at ht₂
    have hleads := ih ht₂ hrest
    refine fun d' hd' => (List.mem_cons.1 hd').elim (fun he => ?_) (hleads d')
    subst he
    by_cases hmem : d' ∈ rest
    · exact hleads d' hmem
    -- its own directory is inside no other one, and the way to it is that to the others
    have hmade := FileTree.leads_of_createDirs (steps_dialectDir_ne_nil g d') hm
    have hchange := change_prepareDirs (g := g) rest ht₂ keep
    rw [hrest] at hchange
    cases hr : rest with
    | nil =>
      subst hr
      obtain ⟨rfl, -⟩ := Prod.mk.inj hrest
      exact hmade
    | cons d₂ rest₂ =>
      intro l hl
      rcases passes_dialectDir.1 hl with hout | rfl
      · exact FileTree.leads_of_prefix (hleads d₂ (hr ▸ .head _)) (prefix_dialectDir g d₂) l hout
      · rw [hchange.current]
        have hend := hmade.end
        rcases hchange.get? ((g.dialectDir d').resolve t₂.current) fun ⟨d₃, hd₃, hpre⟩ =>
          hmem (dialect_eq_of_below hpre ▸ hd₃) with he | ⟨-, hn, -⟩
        · exact he.trans hend
        · rw [hend] at hn
          cases hn

/-- **Nothing is left in directories that are prepared**, if the path of the first one finds what
stands there. -/
theorem rebuilt_prepareDirs (ht : t.WellFormed) (hfirst : ∀ d ∈ ds.head?, t.Finds (g.dialectDir d))
    (h : g.prepareDirs false ds t = (t', .ok cleared)) :
    FileTree.Rebuilt (g.Inside ds t.current) (g.OnWay ds t.current) t t' := by
  induction ds generalizing t cleared with
  | nil =>
    obtain ⟨rfl, -⟩ := Prod.mk.inj h
    exact (FileTree.Rebuilt.refl ht).congr (by simp [Inside]) (by simp [OnWay])
  | cons d rest ih =>
    obtain ⟨t₁, gone, t₂, more, hc, hm, hrest, -⟩ := prepareDirs_cons_eq_ok h
    simp only [Bool.false_eq_true, if_false] at hc
    have hone := FileTree.rebuilt_of_clear ht (steps_dialectDir_ne_nil g d) (hfirst d rfl) hc hm
    have hmore := ih hone.wellFormed
      (fun d' _ => FileTree.finds_of_reaches (reaches_dialectDir (leads_outputDir hm) d')) hrest
    rw [hone.current] at hmore
    refine (hone.trans hmore fun l hl ⟨d', hd', hpre⟩ => ?_).congr (fun l => inside_cons.symm)
      fun l => onWay_cons.symm
    -- a place on the way to the first one that is inside another one is on the way to that, too
    rcases passes_dialectDir.1 hl with hout | rfl
    · exact ⟨d', hd', passes_dialectDir.2 (.inl hout)⟩
    · obtain rfl := dialect_eq_of_below hpre
      exact ⟨d', hd', passes_dialectDir.2 (.inr rfl)⟩

/-- Directories can be prepared where no file is in the way. -/
theorem prepareDirs_ok (ht : t.WellFormed) (hbase : t.get? t.current = some .directory)
    (hstays : ¬ g.Inside ds t.current t.current)
    (hfree : ∀ l, g.OnWay ds t.current l → ∀ content, t.get? l ≠ some (.file content)) :
    ∃ t' cleared, g.prepareDirs false ds t = (t', .ok cleared) := by
  induction ds generalizing t with
  | nil => exact ⟨t, [], rfl⟩
  | cons d rest ih =>
    have hway : ∀ l, (g.dialectDir d).Passes t.current l → ∀ content, t.get? l ≠ some (.file content) :=
      fun l hl => hfree l (onWay_cons.2 (.inl hl))
    obtain ⟨t₁, gone, hc⟩ := FileTree.clear_ok (hway _ (passes_dialectDir.2 (.inr rfl)))
    have hclear := FileTree.change_clear ht hc
    have hnofile : ∀ {l : Location}, (∀ content, t.get? l ≠ some (.file content)) →
        ∀ content, t₁.get? l ≠ some (.file content) := by
      intro l hl content hf
      rcases FileTree.clear_eq_ok hc with ⟨-, rfl⟩ | ⟨-, -, rfl⟩
      · exact hl content hf
      · rw [FileTree.get?_removeBelow] at hf
        split at hf
        · cases hf
        · exact hl content hf
    have hbase₁ : t₁.get? t₁.current = some .directory := by
      rw [hclear.current]
      rcases hclear.get? t.current fun h => hstays (inside_cons.2 (.inl h.1)) with he | ⟨hf, -⟩
      · exact he.trans hbase
      · exact hf.elim
    have hm := FileTree.createDirs_ok hclear.wellFormed hbase₁ (p := g.dialectDir d) fun l hl =>
      hnofile (hway l (hclear.current ▸ hl))
    have hmake := FileTree.change_createDirs hclear.wellFormed (g.dialectDir d)
    have hgrows := FileTree.grows_createDirs t₁ (g.dialectDir d)
    generalize hr : t₁.createDirs (g.dialectDir d) = made at hm hmake hgrows
    obtain ⟨t₂, r⟩ := made
    obtain rfl : r = .ok () := hm
    have hcur : t₂.current = t.current := hmake.current.trans hclear.current
    obtain ⟨t', more, hrest⟩ := ih hmake.wellFormed (hgrows.current ▸ hgrows.directory _ hbase₁)
      (hcur ▸ fun h => hstays (inside_cons.2 (.inr h))) fun l hl content hf => by
        rcases hmake.get? l fun hf => hf with he | ⟨-, -, hd⟩
        · exact hnofile (hfree l (onWay_cons.2 (.inr (hcur ▸ hl)))) content (he ▸ hf)
        · rw [hd] at hf
          cases hf
    refine ⟨t', if gone then g.dialectDir d :: more else more, ?_⟩
    simp [prepareDirs, hc, hr, hrest, Except.map]

/-- Where directories are kept, the tree only grows. -/
theorem grows_prepareDirs (h : g.prepareDirs true ds t = (t', .ok cleared)) :
    FileTree.Grows t t' := by
  induction ds generalizing t cleared with
  | nil =>
    obtain ⟨rfl, -⟩ := Prod.mk.inj h
    exact .refl t
  | cons d rest ih =>
    obtain ⟨t₁, gone, t₂, more, hc, hm, hrest, -⟩ := prepareDirs_cons_eq_ok h
    obtain ⟨rfl, -⟩ := Prod.mk.inj (Except.ok.inj hc)
    have hgrows := FileTree.grows_createDirs t (g.dialectDir d)
    rw [hm] at hgrows
    exact hgrows.trans (ih hrest)

/-- Nothing is done to directories that are kept and there. -/
theorem prepareDirs_of_leads (h : ∀ d ∈ ds, t.Leads (g.dialectDir d)) :
    g.prepareDirs true ds t = (t, .ok []) := by
  induction ds with
  | nil => rfl
  | cons d rest ih =>
    simp [prepareDirs, FileTree.createDirs_of_leads (h d (.head _)),
      ih fun d' hd' => h d' (.tail _ hd'), Except.map]

/-! ## What was cleared -/

/-- Where the way to the output is there, the directories that are there are cleared. -/
theorem cleared_of_leads (ht : t.WellFormed) (hds : ds.Nodup) (hlead : t.Leads g.outputDir)
    (h : g.prepareDirs false ds t = (t', .ok cleared)) :
    cleared =
      (ds.filter fun d => (t.get? ((g.dialectDir d).resolve t.current)).isSome).map g.dialectDir := by
  induction ds generalizing t cleared with
  | nil => exact (Except.ok.inj (Prod.mk.inj h).2).symm
  | cons d rest ih =>
    obtain ⟨hd, hrest'⟩ := List.nodup_cons.1 hds
    obtain ⟨t₁, gone, t₂, more, hc, hm, hrest, rfl⟩ := prepareDirs_cons_eq_ok h
    simp only [Bool.false_eq_true, if_false] at hc
    have hclear := FileTree.change_clear ht hc
    have hmake := FileTree.change_createDirs hclear.wellFormed (g.dialectDir d)
    rw [hm, hclear.current] at hmake
    have hgone : gone = (t.get? ((g.dialectDir d).resolve t.current)).isSome := by
      rw [FileTree.gone_eq_exists? hc, FileTree.exists?_of_reaches (reaches_dialectDir hlead d)]
    have hcur : t₂.current = t.current := hmake.current.trans hclear.current
    -- nothing happens to the other directories
    have hsame : ∀ d' ∈ rest, t₂.get? ((g.dialectDir d').resolve t₂.current) =
        t.get? ((g.dialectDir d').resolve t.current) := by
      intro d' hd'
      rw [hcur]
      have hne : ¬ (g.dialectDir d).resolve t.current <+: (g.dialectDir d').resolve t.current :=
        fun hpre => hd (dialect_eq_of_below hpre ▸ hd')
      have hkept := (hclear.get? _ fun hin => hne hin.1).resolve_right fun hf => hf.1
      rcases hmake.get? _ fun hf => hf with he | ⟨hpass, hn, -⟩
      · exact he.trans hkept
      · rcases passes_dialectDir.1 hpass with hout | he
        · rw [hkept, hlead _ hout] at hn
          cases hn
        · exact absurd (he ▸ List.prefix_rfl) hne
    rw [ih hmake.wellFormed hrest' (leads_outputDir hm) hrest, List.filter_cons, ← hgone,
      List.filter_congr fun d' hd' => by rw [hsame d' hd']]
    split <;> rfl

/-- The directory of a dialect is there when the way to the output is: it was there, or the way
passes it. -/
def Appears (g : Generator) (t : FileTree) (d : Dialect) : Prop :=
  (t.get? ((g.dialectDir d).resolve t.current)).isSome ∨
    g.outputDir.Passes t.current ((g.dialectDir d).resolve t.current)

instance (p : Path) (base l : Location) : Decidable (p.Passes base l) :=
  decidable_of_iff (∃ front ∈ p.steps.inits, front.foldl FileTree.step base = l) (by
    simp only [List.mem_inits]
    rfl)

instance (g : Generator) (t : FileTree) (d : Dialect) : Decidable (g.Appears t d) :=
  inferInstanceAs (Decidable (_ ∨ _))

/-- **What was cleared**: the first directory if its path led to it, and each other one if it was there
or appeared when the first one was made. -/
theorem cleared_prepareDirs (ht : t.WellFormed) (hds : (d :: rest).Nodup)
    (h : g.prepareDirs false (d :: rest) t = (t', .ok cleared)) :
    cleared = (if t.exists? (g.dialectDir d) then [g.dialectDir d] else []) ++
      (rest.filter fun d' => g.Appears t d').map g.dialectDir := by
  obtain ⟨hd, hrest'⟩ := List.nodup_cons.1 hds
  obtain ⟨t₁, gone, t₂, more, hc, hm, hrest, rfl⟩ := prepareDirs_cons_eq_ok h
  simp only [Bool.false_eq_true, if_false] at hc
  have hclear := FileTree.change_clear ht hc
  have hmake := FileTree.change_createDirs hclear.wellFormed (g.dialectDir d)
  rw [hm, hclear.current] at hmake
  have hcur : t₂.current = t.current := hmake.current.trans hclear.current
  have hlead := leads_outputDir hm
  have happears : ∀ d' ∈ rest,
      (t₂.get? ((g.dialectDir d').resolve t₂.current)).isSome = decide (g.Appears t d') := by
    intro d' hd'
    rw [hcur]
    have hne : ¬ (g.dialectDir d).resolve t.current <+: (g.dialectDir d').resolve t.current :=
      fun hpre => hd (dialect_eq_of_below hpre ▸ hd')
    have hkept := (hclear.get? _ fun hin => hne hin.1).resolve_right fun hf => hf.1
    by_cases hout : g.outputDir.Passes t.current ((g.dialectDir d').resolve t.current)
    · rw [hlead _ (hcur ▸ hout)]
      simp [Appears, hout]
    · have he := (hmake.get? _ fun hf => hf).resolve_right fun hmade =>
        (passes_dialectDir.1 hmade.1).elim hout fun he => hne (he ▸ List.prefix_rfl)
      simp [Appears, hout, he.trans hkept]
  rw [cleared_of_leads hmake.wellFormed hrest' hlead hrest, ← FileTree.gone_eq_exists? hc,
    List.filter_congr happears]
  cases gone <;> rfl

/-! ## Whether the first directory is found -/

/-- What stands in the place of the first directory is found by its path. -/
def FindsFirst (g : Generator) (ds : List Dialect) (t : FileTree) : Prop :=
  ∀ d ∈ ds.head?, t.Finds (g.dialectDir d)

instance (g : Generator) (ds : List Dialect) (t : FileTree) : Decidable (g.FindsFirst ds t) :=
  decidable_of_iff (∀ d ∈ ds.head?.toList, t.Finds (g.dialectDir d)) (by simp [FindsFirst])

/-- **The first directory is found** whatever the tree holds, if the path of the output goes up before it
goes down, and not again. -/
theorem findsFirst_of_straight (ht : t.WellFormed) (hbase : t.get? t.current = some .directory)
    {ups : List Component} {names : List String}
    (hsteps : g.outputDir.steps = ups ++ names.map .name) (hups : ∀ c ∈ ups, ∀ s, c ≠ .name s) :
    g.FindsFirst ds t := by
  intro d _ hsome
  refine FileTree.finds_of_reaches ?_ hsome
  have hdir : (g.dialectDir d).steps = ups ++ (names.map .name ++ [.name d.name]) := by
    rw [steps_dialectDir, hsteps, List.append_assoc]
  exact FileTree.reaches_of_straight ht hbase hdir hups
    (FileTree.namesDir_of_suffix (Path.isName_dialect d) (FileTree.suffix_join _ _)) hsome

/-- A manifest whose output directory is written as a way through another one. -/
def detour : String := "[generator]\noutput = \"build/../src\"\n"

end Generator

end Multidialect
