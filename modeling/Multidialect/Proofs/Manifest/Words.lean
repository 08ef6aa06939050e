import Multidialect.Proofs.Manifest.Accepted
import Multidialect.Proofs.Text.LineEndings

/-! # Names are words

In an accepted manifest no line ends in a name: identifiers hold no white space, and the prefix of
module paths may hold none. So the profile of each dialect is made of words
(`Manifest.Valid.wellWorded`), whether its names are built in or given.
-/

namespace Multidialect

open Text

theorem NameFault.isWord {name : Text} (h : find? name = none) : IsWord name := by
  unfold find? at h
  split at h
  · cases h
  · rename_i c cs
    split at h
    · cases h
    · rename_i hc
      split at h
      · cases h
      · rename_i hcs
        have hends : ∀ d, canStart d = false → canFollow d = false → d ∉ c :: cs := by
          intro d hstart hfollow hd
          rcases List.mem_cons.1 hd with rfl | hd
          · simp [hstart] at hc
          · simp only [Bool.not_eq_true', Bool.not_eq_false, List.all_eq_true] at hcs
            simp [hcs d hd] at hfollow
        exact ⟨by simp, hends _ (by decide) (by decide), hends _ (by decide) (by decide)⟩

theorem Text.isWord_of_noBlank {word : Text} (hne : word ≠ [])
    (h : ∀ c ∈ word, isBlank c = false) : IsWord word where
  ne_nil := hne
  noReturn hm := absurd (h _ hm) (by decide)
  noFeed hm := absurd (h _ hm) (by decide)

namespace Dictionary

variable {α : Type}

theorem mem_insert {d : Dictionary α} {key : String} {value : α} {entry : String × α}
    (h : entry ∈ d.insert key value) : entry ∈ d ∨ entry = (key, value) := by
  induction d with
  | nil => exact .inr (List.mem_singleton.1 h)
  | cons first rest ih =>
    obtain ⟨k, v⟩ := first
    simp only [insert] at h
    split at h
    · rename_i hk
      rcases List.mem_cons.1 h with rfl | h
      · exact .inr (by rw [hk])
      · exact .inl (.tail _ h)
    · rcases List.mem_cons.1 h with rfl | h
      · exact .inl (.head _)
      · exact (ih h).imp_left (.tail _)

theorem mem_extend {d more : Dictionary α} {entry : String × α} (h : entry ∈ d.extend more) :
    entry ∈ d ∨ entry ∈ more := by
  induction more generalizing d with
  | nil => exact .inl h
  | cons first more ih =>
    rcases ih h with h | h
    · exact (mem_insert h).imp id fun he => by simp [he]
    · exact .inr (.tail _ h)

end Dictionary

/-- A profile whose names break no line. -/
structure Profile.WellWorded (p : Profile) : Prop where
  modulePrefix : IsWord p.modulePrefix.toList
  typePrefix : IsWord p.typePrefix.toList
  renames : ∀ entry ∈ p.renames, IsWord entry.1.toList ∧ IsWord entry.2.toList

theorem Dialect.wellWorded_profile (d : Dialect) : d.profile.WellWorded := by
  have hrenames : d.profile.renames = [] := by cases d <;> rfl
  refine ⟨?_, ?_, by simp [hrenames]⟩
  · cases d <;> exact NameFault.isWord (by decide)
  · cases d <;> exact NameFault.isWord (by decide)

namespace Manifest

variable {m : Manifest}

theorem ValidOverrides.wellWorded_merge {d : Dialect} {o : Overrides} (ho : m.ValidOverrides d o)
    {p : Profile} (hp : p.WellWorded) : (p.merge o).WellWorded where
  modulePrefix := by
    cases h : o.modulePrefix with
    | none => simpa [Profile.merge, h] using hp.modulePrefix
    | some word =>
      obtain ⟨hne, hblank⟩ := ho.modulePrefix word h
      simpa [Profile.merge, h] using isWord_of_noBlank hne hblank
  typePrefix := by
    cases h : o.typePrefix with
    | none => simpa [Profile.merge, h] using hp.typePrefix
    | some word => simpa [Profile.merge, h] using NameFault.isWord (ho.typePrefix word h)
  renames entry he := by
    rcases Dictionary.mem_extend he with he | he
    · exact hp.renames entry he
    · exact (ho.renames entry he).imp NameFault.isWord NameFault.isWord

theorem Valid.wellWorded (hm : m.Valid) (d : Dialect) : (m.profile d).WellWorded := by
  unfold profile
  cases hl : m.dialects.lookup d with
  | none => exact d.wellWorded_profile
  | some o => exact (hm.dialects _ (mem_of_lookup hl)).wellWorded_merge d.wellWorded_profile

end Manifest

end Multidialect
