import Multidialect.Proofs.Manifest.Accepted
import Multidialect.Proofs.Text.Parameters

/-! # The number of type parameters

A table of a dialect may say how many type parameters the dialect has. This number is checked against
the code as it is given, and a profile is made of the code without the white space around it, or of none
if nothing is left of it. Both have the same number of parameters (`slots_merge`), so the number that
a manifest gives is the one that the dialect's profile has (`slots_resolved`).
-/

namespace Multidialect

open Text

variable {d : Dialect} {o : Overrides}

namespace Profile

/-- The number of type parameters that a dialect has, if it has any. -/
def slots (p : Profile) : Nat := (p.typeParams.map TypeParams.slots).getD 0

theorem slots_eq_iff {p : Profile} {n : Nat} :
    p.slots = n ↔
      (∃ params, p.typeParams = some params ∧ params.slots = n) ∨ n = 0 ∧ p.typeParams = none := by
  unfold slots
  cases p.typeParams with
  | none => simp [eq_comm]
  | some params => simp

/-- Of a code nothing is left that has a parameter only if there is none in it. -/
theorem slots_meaningful? (t : Text) :
    (((meaningful? t).map TypeParams.mk).map TypeParams.slots).getD 0 = parameterCount t := by
  unfold meaningful?
  split
  · rename_i hblank
    exact (parameterCount_of_blanks (isBlankText_iff.1 hblank)).symm
  · exact parameterCount_trim t

theorem slots_profile (d : Dialect) :
    d.profile.slots = parameterCount ((d.profile.typeParams.map (·.code)).getD []) := by
  unfold slots
  cases d.profile.typeParams with
  | none => rfl
  | some params => rfl

/-- **A profile has as many parameters** as the code has that its dialect is checked with. -/
theorem slots_merge (d : Dialect) (o : Overrides) :
    (d.profile.merge o).slots = parameterCount (Manifest.declaredCode d o) := by
  unfold Manifest.declaredCode
  cases hcode : o.typeParams with
  | none =>
    rw [← slots_profile, slots, merge, hcode]
    rfl
  | some code =>
    rw [slots, merge, hcode]
    exact slots_meaningful? code.toList

end Profile

namespace Manifest

open Profile

variable {m : Manifest}

theorem profile_of_lookup (h : m.dialects.lookup d = some o) : m.profile d = d.profile.merge o := by
  rw [profile, h]

/-- The check of the number lets through what the profile has, and nothing else. -/
theorem checkSlots_eq_ok_iff_resolved {s : ManifestSource} :
    checkSlots s d o = .ok () ↔ ∀ n, o.typeParamSlots = some n → (d.profile.merge o).slots = n := by
  rw [checkSlots_eq_ok, slots_merge]
  exact ⟨fun h n hn => (h n hn).symm, fun h n hn => (h n hn).symm⟩

/-- **The number of type parameters that is given is the one there is.** The code that is checked, with
white space around it, has as many parameters as the profile that is made of it. So in every manifest
that is not refused, a dialect whose table gives a number has type parameters, that many, or it has none
and the number is zero. -/
theorem slots_resolved :
    (∀ (d : Dialect) (o : Overrides), (d.profile.merge o).slots = parameterCount (declaredCode d o)) ∧
      ∀ (text fileName : String) (m : Manifest), read text fileName = .ok m →
        ∀ (d : Dialect) (o : Overrides) (n : Nat), m.dialects.lookup d = some o →
          o.typeParamSlots = some n →
          (∃ p, (m.profile d).typeParams = some p ∧ p.slots = n) ∨
            n = 0 ∧ (m.profile d).typeParams = none := by
  refine ⟨slots_merge, fun text fileName m hread d o n ho hn => ?_⟩
  have hvalid : m.ValidOverrides d o := (valid_of_read hread).dialects _ (mem_of_lookup ho)
  have hcount : (m.profile d).slots = n := by
    rw [profile_of_lookup ho, slots_merge]
    exact (hvalid.slots n hn).symm
  exact slots_eq_iff.1 hcount

/-- Two parameters with white space around them, a comma behind the last one, and a bracket in a
string. -/
theorem slots_resolved_padded :
    ∃ m : Manifest,
      Manifest.read
          "[dialects.sqlite]\ntype_params = \" A, B = '(', \"\ntype_param_slots = 2\n" "dialectic.toml" =
        .ok m ∧
      ∃ p, (m.profile .sqlite).typeParams = some p ∧ p.slots = 2 := by
  have hread : Manifest.read
        "[dialects.sqlite]\ntype_params = \" A, B = '(', \"\ntype_param_slots = 2\n" "dialectic.toml" =
      .ok { Manifest.standard with
        dialects := [(.sqlite, { Overrides.nothing with
          typeParams := some " A, B = '(', ", typeParamSlots := some 2 })] } :=
    ok_of_toOption (by decide +kernel)
  have hslots := slots_resolved.2 _ _ _ hread .sqlite _ 2 rfl rfl
  exact ⟨_, hread, hslots.resolve_right fun h => absurd h.1 (by decide)⟩

end Manifest

end Multidialect
