import Multidialect.Proofs.Files.Loaded
import Multidialect.Proofs.Files.Reach

/-! # The same files are loaded alike

What is loaded from a directory depends on nothing but the files in it that have a known extension:
not on the order in which a tree keeps them, since names are sorted, and not on directories. So two
trees with the same files there give the same templates, if the path leads to the directory in both
(`loadTemplates_congr`); and it does where anything is loaded at all (`leads_of_loadTemplates`).
-/

namespace Multidialect

open Path (IsName)

namespace FileTree

variable {t t' : FileTree} {dir : Path} {extensions : List String}

/-- The same files with an extension stand at a location. -/
def SameFiles (t t' : FileTree) (l : Location) : Prop :=
  ∀ (n : String) (content : ByteArray), (fileExtension? n).isSome →
    (t'.get? (l ++ [n]) = some (.file content) ↔ t.get? (l ++ [n]) = some (.file content))

theorem get?_of_mem_of_nodup (hd : (t.entries.map Prod.fst).Nodup) {l : Location} {e : FileEntry}
    (h : (l, e) ∈ t.entries) : t.get? l = some e := by
  obtain ⟨before, after, he⟩ := List.append_of_mem h
  rw [he, List.map_append, List.map_cons] at hd
  refine List.lookup_eq_some_iff.2 ⟨before, after, he, fun entry hm => ?_⟩
  have hne := (List.nodup_append.1 hd).2.2 entry.1 (List.mem_map_of_mem hm) l (.head _)
  simpa using hne.symm

theorem WellFormed.get?_of_mem (ht : t.WellFormed) {l : Location} {e : FileEntry}
    (h : (l, e) ∈ t.entries) : t.get? l = some e := get?_of_mem_of_nodup ht.distinct h

/-! ## Listing -/

theorem list_of_leads (htext : dir.text ≠ "") (h : t.Leads dir) :
    t.list dir = .ok (t.entries.filterMap (childOf? (dir.resolve t.current))) := by
  have hlead := leads_iff.1 h
  unfold leadsToDir at hlead
  split at hlead
  · rename_i l hw
    obtain rfl := (walk_eq hw).trans (foldl_components dir _)
    have hentry : t.entry dir = .ok (dir.resolve t.current, .directory) := by
      rw [entry, locate, if_neg htext, hw, ok_bind, h.end]
    rw [list, hentry]
    rfl
  · cases hlead

theorem leads_of_list {xs : List (String × Bool)} (h : t.list dir = .ok xs) :
    dir.text ≠ "" ∧ t.Leads dir := by
  obtain ⟨⟨l, e⟩, hentry, h⟩ := bind_eq_ok.1 h
  cases e with
  | file content => cases h
  | directory =>
    obtain ⟨l', hloc, -⟩ := bind_eq_ok.1 hentry
    obtain ⟨rfl, hd⟩ := entry_eq_ok hentry
    refine ⟨fun he => ?_, leads_iff.2 ?_⟩
    · rw [locate, if_pos he] at hloc
      cases hloc
    · obtain ⟨rfl, hw⟩ := locate_eq_ok hloc
      rw [leadsToDir, hw]
      exact isDirAt_iff.2 hd

/-- **Anything is loaded** only where the path of the directory leads. -/
theorem leads_of_loadTemplates {xs : List Template} (h : t.loadTemplates dir extensions = .ok xs) :
    dir.text ≠ "" ∧ t.Leads dir := by
  obtain ⟨paths, hp, -⟩ := bind_eq_ok.1 h
  obtain ⟨entries, he, -⟩ := bind_eq_ok.1 hp
  exact leads_of_list (mapError_eq_ok.1 he)

theorem childOf?_concat (l : Location) (n : String) (e : FileEntry) :
    childOf? l (l ++ [n], e) =
      some (n, match e with
        | .file _ => true
        | .directory => false) := by
  cases e <;> simp [childOf?]

/-- The names that are found in a directory are those of the files with a known extension. -/
theorem mem_matchingNames_iff (ht : t.WellFormed) {l : Location} {n : String} :
    n ∈ matchingNames extensions (t.entries.filterMap (childOf? l)) ↔
      (∃ content, t.get? (l ++ [n]) = some (.file content)) ∧
        (fileExtension? n).any extensions.contains = true := by
  simp only [matchingNames, List.mem_map, List.mem_filter, List.mem_filterMap, Bool.and_eq_true]
  constructor
  · rintro ⟨⟨_, _⟩, ⟨⟨⟨k, e⟩, hm, hc⟩, hfile, hext⟩, rfl⟩
    obtain rfl : k = l ++ [_] := childOf?_eq_some hc
    rw [childOf?_concat, Option.some.injEq, Prod.mk.injEq] at hc
    cases e with
    | file content => exact ⟨⟨content, ht.get?_of_mem hm⟩, hext⟩
    | directory => simp [← hc.2] at hfile
  · rintro ⟨⟨content, hf⟩, hext⟩
    exact ⟨(n, true), ⟨⟨_, mem_of_get? hf, childOf?_concat l n _⟩, rfl, hext⟩, rfl⟩

theorem nodup_matchingNames (ht : t.WellFormed) {xs : List (String × Bool)}
    (h : t.list dir = .ok xs) : (matchingNames extensions xs).Nodup :=
  (matchingNames_sublist _ _).nodup (nodup_list ht h).1

/-- Names have one order. -/
theorem sortNames_eq_of_perm {xs ys : List String} (h : xs.Perm ys) :
    sortNames xs = sortNames ys := by
  refine sortBy_eq_of_perm (fun a b => ?_) (fun a b c => ?_) (fun a b => ?_) h
  · simpa using String.le_total a b
  · simpa using String.le_trans
  · simpa using String.le_antisymm

/-! ## Loading -/

theorem readTemplate_congr (hcur : t'.current = t.current) (h : t.Leads dir) (h' : t'.Leads dir)
    {n : String} (hn : IsName n) {content : ByteArray}
    (hf : t.get? (dir.resolve t.current ++ [n]) = some (.file content))
    (hf' : t'.get? (dir.resolve t.current ++ [n]) = some (.file content)) :
    t'.readTemplate (dir.child n) = t.readTemplate (dir.child n) := by
  have hentry : t'.entry (dir.child n) = t.entry (dir.child n) := by
    rw [entry_of_reaches (reaches_child h hn), entry_of_reaches (reaches_child h' hn), hcur,
      Path.resolve_child dir hn, hf, hf']
  simp only [readTemplate, read, readBytes, hentry]

/-- **The same files are loaded alike.** -/
theorem loadTemplates_congr (ht : t.WellFormed) (ht' : t'.WellFormed)
    (hcur : t'.current = t.current) (htext : dir.text ≠ "") (h : t.Leads dir) (h' : t'.Leads dir)
    (hfiles : SameFiles t t' (dir.resolve t.current)) :
    t'.loadTemplates dir extensions = t.loadTemplates dir extensions := by
  have hlist := list_of_leads htext h
  have hlist' := list_of_leads htext h'
  rw [hcur] at hlist'
  have hmem : ∀ {n : String} {content : ByteArray},
      (fileExtension? n).any extensions.contains = true →
      (t'.get? (dir.resolve t.current ++ [n]) = some (.file content) ↔
        t.get? (dir.resolve t.current ++ [n]) = some (.file content)) := by
    intro n content hext
    refine hfiles n content ?_
    cases he : fileExtension? n with
    | none => simp [he] at hext
    | some x => rfl
  have hperm : (matchingNames extensions (t'.entries.filterMap (childOf? (dir.resolve t.current)))).Perm
      (matchingNames extensions (t.entries.filterMap (childOf? (dir.resolve t.current)))) := by
    refine (List.perm_ext_iff_of_nodup (nodup_matchingNames ht' hlist')
      (nodup_matchingNames ht hlist)).2 fun n => ?_
    rw [mem_matchingNames_iff ht', mem_matchingNames_iff ht]
    exact and_congr_left fun hext => exists_congr fun content => hmem hext
  have hpaths : t'.listFiles dir extensions = t.listFiles dir extensions := by
    simp only [listFiles, hlist, hlist', FileFault.during, Except.mapError, bind, Except.bind,
      sortNames_eq_of_perm hperm]
  unfold loadTemplates
  rw [hpaths]
  cases hp : t.listFiles dir extensions with
  | error e => rfl
  | ok paths =>
    obtain ⟨entries, he, hp⟩ := bind_eq_ok.1 hp
    obtain rfl := Except.ok.inj ((mapError_eq_ok.1 he).symm.trans hlist)
    obtain rfl := pure_eq_ok.1 hp
    refine mapM_congr fun p hp => ?_
    obtain ⟨n, hn, rfl⟩ := List.mem_map.1 hp
    have hn := (sortBy_perm _ _).subset hn
    obtain ⟨⟨content, hf⟩, hext⟩ := (mem_matchingNames_iff ht).1 hn
    exact readTemplate_congr hcur h h' (ht.names_of_get? hf n (by simp)) hf ((hmem hext).2 hf)

end FileTree

end Multidialect
