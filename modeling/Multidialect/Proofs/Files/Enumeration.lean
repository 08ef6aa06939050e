import Multidialect.Proofs.Files.Same
import Multidialect.Proofs.Files.Sources
import Mathlib.Data.List.Nodup

/-! # The order of entries

A tree lists a directory in the order in which it keeps its entries, which says nothing about the
directory. Two well-formed trees that are the `Same` list the same entries, if perhaps in another
order (`Reordered.list`); names are sorted afterwards, and no name stands twice in a directory, so the
files that are found are the same (`Reordered.listFiles`), strictly in the order of their names
(`exists_names_of_listFiles`).
-/

namespace Multidialect

open Path (IsName)

namespace FileTree

variable {t t' : FileTree} {dir : Path} {extensions : List String}

/-- Well-formed trees that differ in nothing but the order of their entries. -/
structure Reordered (t t' : FileTree) : Prop where
  same : Same t t'
  left : t.WellFormed
  right : t'.WellFormed

theorem lookup_eq_some_iff_mem (ht : t.WellFormed) {l : Location} {e : FileEntry} :
    t.get? l = some e ↔ (l, e) ∈ t.entries :=
  ⟨mem_of_get?, ht.get?_of_mem⟩

theorem nodup_entries (ht : t.WellFormed) : t.entries.Nodup := List.Nodup.of_map _ ht.distinct

theorem Reordered.of_perm (ht : t.WellFormed) (hperm : t'.entries.Perm t.entries)
    (hcur : t'.current = t.current) : Reordered t t' := by
  have hdistinct : (t'.entries.map Prod.fst).Nodup := (hperm.map _).nodup_iff.2 ht.distinct
  have hget : ∀ l, t'.get? l = t.get? l := by
    intro l
    apply Option.ext
    intro e
    constructor
    · intro h
      exact ht.get?_of_mem (hperm.subset (mem_of_get? h))
    · intro h
      exact get?_of_mem_of_nodup hdistinct (hperm.symm.subset (mem_of_get? h))
  refine ⟨⟨hcur, hget⟩, ht, hdistinct, ?_, ?_⟩
  · intro entry hm
    exact ht.names entry (hperm.subset hm)
  · intro entry hm hne
    rw [hget]
    exact ht.parent entry (hperm.subset hm) hne

theorem Reordered.perm (h : Reordered t t') : t'.entries.Perm t.entries := by
  refine (List.perm_ext_iff_of_nodup (nodup_entries h.right) (nodup_entries h.left)).2 ?_
  rintro ⟨l, e⟩
  rw [← lookup_eq_some_iff_mem h.right, ← lookup_eq_some_iff_mem h.left, h.same.get?]

/-! ## Listing -/

/-- Both listings fail alike, or they hold the same entries. -/
theorem Reordered.list (h : Reordered t t') (p : Path) :
    (∃ e, t.list p = .error e ∧ t'.list p = .error e) ∨
      ∃ xs xs', t.list p = .ok xs ∧ t'.list p = .ok xs' ∧ xs'.Perm xs := by
  simp only [FileTree.list, h.same.entry]
  cases t.entry p with
  | error e => exact .inl ⟨e, rfl, rfl⟩
  | ok x =>
    obtain ⟨l, e⟩ := x
    cases e with
    | file content => exact .inl ⟨_, rfl, rfl⟩
    | directory => exact .inr ⟨_, _, rfl, rfl, h.perm.filterMap _⟩

theorem matchingNames_perm {xs xs' : List (String × Bool)} (h : xs'.Perm xs) :
    (matchingNames extensions xs').Perm (matchingNames extensions xs) :=
  (h.filter _).map _

theorem Reordered.listFiles (h : Reordered t t') (dir : Path) (extensions : List String) :
    t'.listFiles dir extensions = t.listFiles dir extensions := by
  unfold FileTree.listFiles
  rcases h.list dir with ⟨e, he, he'⟩ | ⟨xs, xs', hxs, hxs', hperm⟩
  · rw [he, he']
  · rw [hxs, hxs']
    simp only [FileFault.during, Except.mapError, bind, Except.bind,
      sortNames_eq_of_perm (matchingNames_perm hperm)]

theorem Reordered.readTemplate (h : Reordered t t') (p : Path) :
    t'.readTemplate p = t.readTemplate p := by
  simp only [FileTree.readTemplate, read, readBytes, h.same.entry]

theorem Reordered.loadTemplates (h : Reordered t t') (dir : Path) (extensions : List String) :
    t'.loadTemplates dir extensions = t.loadTemplates dir extensions := by
  unfold FileTree.loadTemplates
  rw [h.listFiles, funext h.readTemplate]

/-- Names that are different are sorted strictly. -/
theorem pairwise_lt_sortNames {names : List String} (h : names.Nodup) :
    (sortNames names).Pairwise (· < ·) := by
  have hle : (sortNames names).Pairwise fun a b => decide (a ≤ b) = true := by
    refine pairwise_sortBy (fun a b => ?_) (fun a b c => ?_) names
    · simpa using String.le_total a b
    · simpa using String.le_trans
  have hne : (sortNames names).Nodup := (sortBy_perm _ names).nodup_iff.2 h
  refine (hle.and hne).imp ?_
  intro a b hab
  rw [← String.not_le]
  exact fun hba => hab.2 (String.le_antisymm (of_decide_eq_true hab.1) hba)

/-- **The files that are found** in a directory: each one that has one of the extensions, once, in the
order of the names. -/
theorem exists_names_of_listFiles (ht : t.WellFormed) {paths : List Path}
    (h : t.listFiles dir extensions = .ok paths) :
    ∃ names : List String, paths = names.map dir.child ∧ names.Pairwise (· < ·) ∧
      ∀ n, n ∈ names ↔
        (∃ content, t.get? (dir.resolve t.current ++ [n]) = some (.file content)) ∧
          (fileExtension? n).any extensions.contains = true := by
  obtain ⟨entries, hlist, h⟩ := bind_eq_ok.1 h
  obtain rfl := pure_eq_ok.1 h
  have hlist := mapError_eq_ok.1 hlist
  refine ⟨_, rfl, pairwise_lt_sortNames (nodup_matchingNames ht hlist), fun n => ?_⟩
  obtain ⟨htext, hlead⟩ := leads_of_list hlist
  obtain rfl := Except.ok.inj (hlist.symm.trans (list_of_leads htext hlead))
  rw [sortNames, (sortBy_perm _ _).mem_iff, mem_matchingNames_iff ht]

/-- **Templates are loaded in the order of their file names.** -/
theorem pairwise_lt_fileNames (ht : t.WellFormed) {xs : List Template}
    (h : t.loadTemplates dir extensions = .ok xs) : (xs.map (·.fileName)).Pairwise (· < ·) := by
  obtain ⟨paths, hpaths, hread⟩ := bind_eq_ok.1 h
  obtain ⟨names, rfl, hsorted, hmem⟩ := exists_names_of_listFiles ht hpaths
  have hnames : ∀ n ∈ names, Path.IsName n := by
    intro n hn
    obtain ⟨⟨content, hfile⟩, -⟩ := (hmem n).1 hn
    exact ht.names _ (mem_of_get? hfile) n (by simp)
  rwa [fileNames_of_forall₂ hnames (mapM_eq_ok hread)]

end FileTree

end Multidialect
