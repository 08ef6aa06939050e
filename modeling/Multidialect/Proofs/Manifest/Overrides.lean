import Multidialect.Proofs.Manifest.Accepted

/-! # Other overrides for regions

A manifest in which one dialect is given other overrides for its regions. The profile of that dialect
has these in place of the old ones and is the same in all else (`profile_withSnippets`), the other
profiles are the same (`profile_withSnippets_of_ne`), and the manifest is let through as before if what
is overridden are keys (`valid_withSnippets_iff`).
-/

namespace Multidialect

open Text

/-! ## Dictionaries -/

namespace Dictionary

variable {α : Type}

/-- The dictionary without what stands under a key. -/
def erase (d : Dictionary α) (key : String) : Dictionary α := d.filter (·.1 ≠ key)

/-- The dictionary with a value under a key, at its end. -/
def put (d : Dictionary α) (key : String) (value : α) : Dictionary α := d.erase key ++ [(key, value)]

theorem mem_keys_put {d : Dictionary α} {key k : String} {value : α} (h : k ∈ (d.put key value).keys) :
    k ∈ d.keys ∨ k = key := by
  rw [keys, put, List.map_append, List.mem_append] at h
  rcases h with h | h
  · obtain ⟨entry, hm, rfl⟩ := List.mem_map.1 h
    exact .inl (List.mem_map_of_mem (List.mem_of_mem_filter hm))
  · exact .inr (List.mem_singleton.1 h)

theorem key_mem_keys_put (d : Dictionary α) (key : String) (value : α) :
    key ∈ (d.put key value).keys := by
  simp [keys, put]

/-- Of a dictionary that is put in, the last value under a key is looked up. -/
theorem get?_extend (d more : Dictionary α) (k : String) :
    (d.extend more).get? k = (more.reverse.lookup k).or (d.get? k) := by
  induction more generalizing d with
  | nil => rfl
  | cons entry more ih =>
    have hstep : (d.insert entry.1 entry.2).get? k =
        ([entry].lookup k).or (d.get? k) := by
      rw [get?_insert, List.lookup_cons]
      by_cases h : k = entry.1
      · simp [h]
      · simp [h, beq_eq_false_iff_ne.2 h]
    rw [List.reverse_cons, List.lookup_append, Option.or_assoc, ← hstep]
    exact ih _

theorem lookup_erase (d : Dictionary α) (key k : String) :
    (d.erase key).lookup k = if k = key then none else d.lookup k := by
  induction d with
  | nil => simp [erase]
  | cons entry d ih =>
    obtain ⟨k', v⟩ := entry
    unfold erase at ih ⊢
    rw [List.filter_cons, List.lookup_cons]
    by_cases hkept : k' = key
    · rw [if_neg (by simpa using hkept), ih]
      by_cases h : k = key
      · rw [if_pos h, if_pos h]
      · rw [if_neg h, if_neg h, beq_eq_false_iff_ne.2 fun hk => h (hk.trans hkept)]
    · rw [if_pos (by simpa using hkept), List.lookup_cons, ih]
      by_cases hk : k = k'
      · simp [hk, hkept]
      · rw [beq_eq_false_iff_ne.2 hk]

theorem reverse_erase (d : Dictionary α) (key : String) :
    (d.erase key).reverse = erase d.reverse key := List.filter_reverse.symm

/-- Without what stands under a key, nothing is found there. -/
theorem get?_extend_erase (more : Dictionary α) (key k : String) :
    (extend [] (more.erase key)).get? k = if k = key then none else (extend [] more).get? k := by
  rw [get?_extend, get?_extend, reverse_erase, lookup_erase]
  split <;> rfl

/-- A value that is put under a key is found there, and nothing else is changed. -/
theorem get?_extend_put (d more : Dictionary α) (key : String) (value : α) (k : String) :
    (d.extend (more.put key value)).get? k =
      if k = key then some value else (d.extend more).get? k := by
  rw [get?_extend, get?_extend, put, List.reverse_append, List.reverse_singleton,
    List.singleton_append, List.lookup_cons, reverse_erase, lookup_erase]
  by_cases h : k = key
  · simp [h]
  · rw [beq_eq_false_iff_ne.2 h, if_neg h, if_neg h]

theorem mem_keys_insert {d : Dictionary α} {key k : String} {value : α} :
    k ∈ (d.insert key value).keys ↔ k ∈ d.keys ∨ k = key := by
  induction d with
  | nil => simp [insert, keys]
  | cons entry rest ih =>
    obtain ⟨k', v'⟩ := entry
    unfold keys at ih ⊢
    rw [insert]
    split
    · rename_i hk
      simp only [List.map_cons, List.mem_cons, hk]
      tauto
    · simp only [List.map_cons, List.mem_cons, ih, or_assoc]

theorem mem_keys_extend {d more : Dictionary α} {k : String} :
    k ∈ (d.extend more).keys ↔ k ∈ d.keys ∨ k ∈ more.keys := by
  induction more generalizing d with
  | nil => simp [extend, keys]
  | cons entry more ih =>
    have hstep : k ∈ (d.extend (entry :: more)).keys ↔
        k ∈ (d.insert entry.1 entry.2).keys ∨ k ∈ keys more := ih
    rw [hstep, mem_keys_insert, or_assoc]
    simp [keys]

end Dictionary

namespace Manifest

variable {m : Manifest} {d e : Dialect} {snippets : Dictionary String}

/-! ## The overrides of a dialect -/

/-- The list with `o` for the overrides of a dialect, in the place of its old ones or at the end. -/
def setOverrides (d : Dialect) (o : Overrides) :
    List (Dialect × Overrides) → List (Dialect × Overrides)
  | [] => [(d, o)]
  | (e, old) :: rest => if e = d then (d, o) :: rest else (e, old) :: setOverrides d o rest

/-- What a manifest says of a dialect. -/
def overrides (m : Manifest) (d : Dialect) : Overrides := (m.dialects.lookup d).getD .nothing

/-- The manifest with other overrides for the regions of a dialect. -/
def withSnippets (m : Manifest) (d : Dialect) (snippets : Dictionary String) : Manifest :=
  { m with dialects := setOverrides d { m.overrides d with snippets } m.dialects }

theorem lookup_setOverrides {o : Overrides} (entries : List (Dialect × Overrides)) :
    (setOverrides d o entries).lookup e = if e = d then some o else entries.lookup e := by
  induction entries with
  | nil =>
    by_cases h : e = d
    · simp [setOverrides, h]
    · simp [setOverrides, List.lookup_cons, h, beq_eq_false_iff_ne.2 h]
  | cons entry rest ih =>
    obtain ⟨e', old⟩ := entry
    rw [setOverrides]
    by_cases h' : e' = d
    · subst h'
      by_cases h : e = e'
      · simp [h]
      · simp [List.lookup_cons, h, beq_eq_false_iff_ne.2 h]
    · rw [if_neg h', List.lookup_cons, List.lookup_cons, ih]
      by_cases h : e = e'
      · simp [h, h']
      · simp [beq_eq_false_iff_ne.2 h]

theorem mem_setOverrides {o : Overrides} {entries : List (Dialect × Overrides)}
    {entry : Dialect × Overrides} (h : entry ∈ setOverrides d o entries) :
    entry = (d, o) ∨ entry ∈ entries := by
  induction entries with
  | nil => exact .inl (List.mem_singleton.1 h)
  | cons first rest ih =>
    obtain ⟨e', old⟩ := first
    rw [setOverrides] at h
    split at h
    · exact (List.mem_cons.1 h).imp_right (.tail _)
    · rcases List.mem_cons.1 h with rfl | h
      · exact .inr (.head _)
      · exact (ih h).imp_right (.tail _)

theorem lookup_withSnippets : (m.withSnippets d snippets).dialects.lookup e =
    if e = d then some { m.overrides d with snippets } else m.dialects.lookup e :=
  lookup_setOverrides m.dialects

theorem profile_withSnippets_of_ne (h : e ≠ d) : (m.withSnippets d snippets).profile e = m.profile e := by
  rw [profile, lookup_withSnippets, if_neg h, profile]

/-- **The profile** has the other overrides and is the same in all else. -/
theorem profile_withSnippets (m : Manifest) (d : Dialect) (snippets : Dictionary String) :
    (m.withSnippets d snippets).profile d =
      { m.profile d with snippets := Dictionary.extend [] snippets } := by
  rw [profile, lookup_withSnippets, if_pos rfl, profile, overrides]
  cases m.dialects.lookup d with
  | none => cases d <;> rfl
  | some o => cases d <;> rfl

theorem profile_snippets (m : Manifest) (d : Dialect) :
    (m.profile d).snippets = Dictionary.extend [] (m.overrides d).snippets := by
  rw [profile, overrides]
  cases m.dialects.lookup d with
  | none => cases d <;> rfl
  | some o => cases d <;> rfl

theorem extras_profile_withSnippets :
    ((m.withSnippets d snippets).profile e).extras = (m.profile e).extras := by
  by_cases h : e = d
  · rw [h, profile_withSnippets]
  · rw [profile_withSnippets_of_ne h]

theorem inputDirs_withSnippets : (m.withSnippets d snippets).inputDirs = m.inputDirs := by
  simp only [inputDirs, profiles, List.filterMap_map, Function.comp_def, extras_profile_withSnippets]
  rfl

/-! ## Which keys are let through -/

theorem Valid.overrides (hm : m.Valid) (d : Dialect) : m.ValidOverrides d (m.overrides d) := by
  unfold Manifest.overrides
  cases h : m.dialects.lookup d with
  | none => exact ⟨fun _ => rfl, nofun, nofun, nofun, nofun, nofun, nofun⟩
  | some o => exact hm.dialects _ (mem_of_lookup h)

/-- **Other overrides of a variant are let through** exactly if what they override are keys. -/
theorem valid_withSnippets_iff (hm : m.Valid) (hd : d ≠ m.reference) :
    (m.withSnippets d snippets).Valid ↔ ∀ key ∈ snippets.keys, KeyFault.find? key.toList = none := by
  constructor
  · intro h
    have hnew : (d, { m.overrides d with snippets }) ∈ (m.withSnippets d snippets).dialects :=
      mem_of_lookup (by rw [lookup_withSnippets, if_pos rfl])
    exact (h.dialects _ hnew).snippets
  · intro hkeys
    refine ⟨hm.placeholder, hm.extensions, hm.extension, hm.barrel, hm.builder, hm.types, ?_,
      fun r hr => ?_, ?_⟩
    · intro entry hentry
      rcases mem_setOverrides hentry with rfl | hentry
      · have ho := hm.overrides d
        exact ⟨fun h => absurd h hd, ho.typePrefix, ho.modulePrefix, ho.slots, ho.renames,
          ho.unsupported, hkeys⟩
      · have ho := hm.dialects entry hentry
        exact ⟨ho.reference, ho.typePrefix, ho.modulePrefix, ho.slots, ho.renames, ho.unsupported,
          ho.snippets⟩
    · obtain ⟨htemplate, hpattern, hdialects⟩ := hm.replacers r hr
      exact ⟨htemplate, hpattern, hdialects⟩
    · intro e dir hdir
      rw [inputDirs_withSnippets] at hdir
      exact hm.layout e dir hdir

end Manifest

end Multidialect
