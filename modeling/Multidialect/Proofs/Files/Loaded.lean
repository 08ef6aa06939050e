import Multidialect.Proofs.Files.Change

/-! # What is loaded from a directory

Each name stands once in a directory, so the templates that are loaded from one have different file
names; and a file name is one component of a path, with an extension that was asked for
(`loadTemplates_eq_ok`).
-/

namespace Multidialect

open Path (IsName Component)

namespace Path

theorem fileName?_child (p : Path) {s : String} (h : IsName s) : (p.child s).fileName? = some s := by
  have hlast : (p.child s).components.getLast? = some (.name s) := by
    rcases components_eq (p.child s) with he | he <;> rw [he, steps_child p h]
    · exact List.getLast?_concat
    · exact List.getLast?_concat (l := .here :: p.steps)
  rw [fileName?, hlast]

end Path

/-- A name with an extension is not the name of a dialect. -/
theorem ne_dialect_of_extension {name : String} (h : (fileExtension? name).isSome) (d : Dialect) :
    name ≠ d.name := by
  rintro rfl
  revert h
  cases d <;> decide

namespace FileTree

variable {t : FileTree}

theorem childOf?_eq_some {l : Location} {entry : Location × FileEntry} {x : String × Bool}
    (h : childOf? l entry = some x) : entry.1 = l ++ [x.1] := by
  obtain ⟨k, e⟩ := entry
  simp only [childOf?] at h
  split at h
  · rename_i hk
    obtain ⟨name, hn, rfl⟩ := Option.map_eq_some_iff.1 h
    obtain ⟨front, rfl⟩ := List.getLast?_eq_some_iff.1 hn
    have hl : front = l := by simpa using hk.2
    rw [hl]
  · cases h

/-- The names in a directory are different. -/
theorem nodup_list {p : Path} {xs : List (String × Bool)} (ht : t.WellFormed)
    (h : t.list p = .ok xs) : (xs.map Prod.fst).Nodup ∧ ∀ x ∈ xs, IsName x.1 := by
  obtain ⟨⟨l, e⟩, -, h⟩ := bind_eq_ok.1 h
  cases e with
  | file content => cases h
  | directory =>
    obtain rfl := Except.ok.inj h
    refine ⟨?_, fun x hx => ?_⟩
    · have hd := ht.distinct
      rw [List.Nodup, List.pairwise_map] at hd
      rw [List.Nodup, List.pairwise_map, List.pairwise_filterMap]
      refine hd.imp fun {a b} hab x hx y hy he => hab ?_
      rw [childOf?_eq_some hx, childOf?_eq_some hy, he]
    · obtain ⟨entry, hm, he⟩ := List.mem_filterMap.1 hx
      refine ht.names entry hm x.1 ?_
      rw [childOf?_eq_some he]
      simp

theorem matchingNames_sublist (extensions : List String) (xs : List (String × Bool)) :
    (matchingNames extensions xs).Sublist (xs.map Prod.fst) :=
  List.filter_sublist.map _

theorem extension_of_mem_matchingNames {extensions : List String} {xs : List (String × Bool)}
    {name : String} (h : name ∈ matchingNames extensions xs) : (fileExtension? name).isSome := by
  obtain ⟨x, hx, rfl⟩ := List.mem_map.1 h
  have := (List.mem_filter.1 hx).2
  cases hf : fileExtension? x.1 with
  | none => simp [hf] at this
  | some extension => rfl

theorem fileName_readTemplate {p : Path} {x : Template} (h : t.readTemplate p = .ok x) :
    x.fileName = p.fileName?.getD "" := by
  obtain ⟨source, -, h⟩ := bind_eq_ok.1 h
  obtain rfl := pure_eq_ok.1 h
  rfl

theorem fileNames_of_forall₂ {dir : Path} {names : List String} {xs : List Template}
    (hn : ∀ n ∈ names, IsName n)
    (h : List.Forall₂ (fun p x => t.readTemplate p = .ok x) (names.map dir.child) xs) :
    xs.map (·.fileName) = names := by
  induction names generalizing xs with
  | nil =>
    cases h
    rfl
  | cons n names ih =>
    cases h with
    | cons hx hrest =>
      rw [List.map_cons, ih (fun n' hm => hn n' (.tail _ hm)) hrest, fileName_readTemplate hx,
        Path.fileName?_child dir (hn n (.head _))]
      rfl

/-- **The templates in a directory** have different file names, each of them one component with an
extension. -/
theorem loadTemplates_eq_ok (ht : t.WellFormed) {dir : Path} {extensions : List String}
    {xs : List Template} (h : t.loadTemplates dir extensions = .ok xs) :
    (xs.map (·.fileName)).Nodup ∧
      ∀ x ∈ xs, IsName x.fileName ∧ (fileExtension? x.fileName).isSome := by
  obtain ⟨paths, hp, h⟩ := bind_eq_ok.1 h
  obtain ⟨entries, he, hp⟩ := bind_eq_ok.1 hp
  obtain rfl := pure_eq_ok.1 hp
  obtain ⟨hnodup, hnames⟩ := nodup_list ht (mapError_eq_ok.1 he)
  have hperm := sortBy_perm (fun a b => decide (a ≤ b)) (matchingNames extensions entries)
  have hmem : ∀ n ∈ sortNames (matchingNames extensions entries),
      IsName n ∧ (fileExtension? n).isSome := by
    intro n hn
    have hn := hperm.subset hn
    obtain ⟨x, hx, rfl⟩ := List.mem_map.1 ((matchingNames_sublist _ _).subset hn)
    exact ⟨hnames x hx, extension_of_mem_matchingNames hn⟩
  have hfile := fileNames_of_forall₂ (fun n hn => (hmem n hn).1) (mapM_eq_ok h)
  refine ⟨?_, fun x hx => hmem _ ?_⟩
  · rw [hfile]
    exact hperm.nodup_iff.2 ((matchingNames_sublist _ _).nodup hnodup)
  · rw [← hfile]
    exact List.mem_map_of_mem hx

end FileTree

end Multidialect
