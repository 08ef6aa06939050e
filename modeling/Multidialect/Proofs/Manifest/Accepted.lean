import Multidialect.Manifest.Read
import Multidialect.Proofs.Outcome

/-! # Accepted manifests

What a manifest is like that is not refused, check by check: the settings of the run, the overrides
of each dialect, the replacers, and the directories (`check_eq_ok`). Whatever is read from a
text is like that (`valid_of_read`).
-/

namespace Multidialect

open Text

/-! ## Checks that pass -/

theorem refuseIf_eq_ok {bad : Bool} {e : ManifestError} : refuseIf bad e = .ok () ↔ bad = false := by
  cases bad <;> simp [refuseIf]

theorem ManifestSource.checkName_eq_ok {s : ManifestSource} {name kind : String} :
    s.checkName name kind = .ok () ↔ NameFault.find? name.toList = none := by
  unfold checkName
  split <;> simp_all

namespace Manifest

/-! ## What the checks ask for -/

/-- Overrides of a dialect that make sense. -/
structure ValidOverrides (m : Manifest) (d : Dialect) (o : Overrides) : Prop where
  reference : d = m.reference → o.variantOnlyFields = []
  typePrefix : ∀ word, o.typePrefix = some word → NameFault.find? word.toList = none
  modulePrefix : ∀ word, o.modulePrefix = some word →
    word.toList ≠ [] ∧ ∀ c ∈ word.toList, isBlank c = false
  slots : ∀ slots, o.typeParamSlots = some slots → slots = parameterCount (declaredCode d o)
  renames : ∀ entry ∈ o.renames, NameFault.find? entry.1.toList = none ∧
    NameFault.find? entry.2.toList = none
  unsupported : ∀ names, o.unsupported = some names →
    ∀ name ∈ names, isBlankText name.toList = false
  snippets : ∀ key ∈ o.snippets.keys, KeyFault.find? key.toList = none

/-- A replacer that makes sense. -/
structure ValidReplacer (m : Manifest) (r : ReplacerSettings) : Prop where
  template : isBlankText r.template.toList = false
  pattern : (Pattern.read? r.pattern).isSome
  dialects : ∀ dialects, r.dialects = some dialects → dialects ≠ [] ∧ m.reference ∉ dialects

/-- The directories that a run reads: the templates, and the extra modules of each dialect. -/
def inputDirs (m : Manifest) : List Path :=
  m.generator.templates :: m.profiles.filterMap (·.extras)

/-- A manifest that makes sense. -/
structure Valid (m : Manifest) : Prop where
  placeholder : NameFault.find? m.generator.placeholder.toList = none
  extensions : m.generator.extensions ≠ []
  extension : ∀ x ∈ m.generator.extensions, x.toList ≠ [] ∧ '.' ∉ x.toList ∧ '/' ∉ x.toList
  barrel : m.generator.barrel.toList ≠ [] ∧ '/' ∉ m.generator.barrel.toList
  builder : NameFault.find? m.types.builder.toList = none
  types : ∀ name ∈ m.types.queries ++ m.types.sessions, NameFault.find? name.toList = none
  dialects : ∀ entry ∈ m.dialects, m.ValidOverrides entry.1 entry.2
  replacers : ∀ r ∈ m.replacers, m.ValidReplacer r
  layout : ∀ d, ∀ dir ∈ m.inputDirs, dir.normalize.startsWith (m.normalOutput d) = false

variable {m : Manifest}

/-! ## Each check -/

theorem checkExtension_eq_ok {s : ManifestSource} {x : String} :
    checkExtension s x = .ok () ↔ x.toList ≠ [] ∧ '.' ∉ x.toList ∧ '/' ∉ x.toList := by
  rw [checkExtension, refuseIf_eq_ok]
  simp [and_assoc]

theorem checkGenerator_eq_ok {source : ManifestSource} :
    m.checkGenerator source = .ok () ↔
      NameFault.find? m.generator.placeholder.toList = none ∧ m.generator.extensions ≠ [] ∧
      (∀ x ∈ m.generator.extensions, x.toList ≠ [] ∧ '.' ∉ x.toList ∧ '/' ∉ x.toList) ∧
      (m.generator.barrel.toList ≠ [] ∧ '/' ∉ m.generator.barrel.toList) ∧
      NameFault.find? m.types.builder.toList = none ∧
      ∀ name ∈ m.types.queries ++ m.types.sessions, NameFault.find? name.toList = none := by
  simp only [checkGenerator, andThen_eq_ok, ManifestSource.checkName_eq_ok, refuseIf_eq_ok,
    list_forM_eq_ok, checkExtension_eq_ok]
  simp

theorem checkReference_eq_ok {source : ManifestSource} {d : Dialect} {o : Overrides} :
    m.checkReference source d o = .ok () ↔ (d = m.reference → o.variantOnlyFields = []) := by
  unfold checkReference
  split
  · split <;> simp_all
  · simp_all

theorem checkSlots_eq_ok {s : ManifestSource} {d : Dialect} {o : Overrides} :
    checkSlots s d o = .ok () ↔
      ∀ slots, o.typeParamSlots = some slots → slots = parameterCount (declaredCode d o) := by
  unfold checkSlots
  split
  · rename_i slots hs
    simp [refuseIf_eq_ok, hs]
  · simp_all

theorem checkKey_eq_ok {s : ManifestSource} {d : Dialect} {key : String} :
    checkKey s d key = .ok () ↔ KeyFault.find? key.toList = none := by
  unfold checkKey
  split <;> simp_all

theorem checkDialect_eq_ok {source : ManifestSource} {d : Dialect} {o : Overrides} :
    m.checkDialect source d o = .ok () ↔ m.ValidOverrides d o := by
  simp only [checkDialect, andThen_eq_ok, checkReference_eq_ok, option_forM_eq_ok, list_forM_eq_ok,
    ManifestSource.checkName_eq_ok, refuseIf_eq_ok, checkSlots_eq_ok, checkKey_eq_ok]
  constructor
  · rintro ⟨h₁, h₂, h₃, h₄, h₅, h₆, h₇⟩
    exact ⟨h₁, h₂, by simpa using h₃, h₄, h₅, by simpa [Option.any_eq_false] using h₆, h₇⟩
  · rintro ⟨h₁, h₂, h₃, h₄, h₅, h₆, h₇⟩
    exact ⟨h₁, h₂, by simpa using h₃, h₄, h₅, by simpa [Option.any_eq_false] using h₆, h₇⟩

theorem checkReplacer_eq_ok {source : ManifestSource} {r : ReplacerSettings} :
    m.checkReplacer source r = .ok () ↔ m.ValidReplacer r := by
  simp only [checkReplacer, andThen_eq_ok, option_forM_eq_ok, refuseIf_eq_ok]
  constructor
  · rintro ⟨h₁, h₂, h₃⟩
    exact ⟨h₁, by simpa [Option.isSome_iff_ne_none] using h₂, by simpa using h₃⟩
  · rintro ⟨h₁, h₂, h₃⟩
    exact ⟨h₁, by simpa [Option.isSome_iff_ne_none] using h₂, by simpa using h₃⟩

theorem mem_of_lookup {d : Dialect} {o : Overrides} (h : m.dialects.lookup d = some o) :
    (d, o) ∈ m.dialects := by
  obtain ⟨_, _, he, -⟩ := List.lookup_eq_some_iff.1 h
  simp [he]

theorem mem_profiles (m : Manifest) (d : Dialect) : m.profile d ∈ m.profiles :=
  List.mem_map_of_mem (Dialect.mem_all d)

@[simp] theorem dialect_profile (m : Manifest) (d : Dialect) : (m.profile d).dialect = d := by
  unfold profile
  split
  · cases d <;> rfl
  · cases d <;> rfl

theorem checkLayout_eq_ok {source : ManifestSource} :
    m.checkLayout source = .ok () ↔
      ∀ d, ∀ dir ∈ m.inputDirs, dir.normalize.startsWith (m.normalOutput d) = false := by
  simp only [checkLayout, checkOutput, andThen_eq_ok, list_forM_eq_ok, option_forM_eq_ok,
    refuseIf_eq_ok, inputDirs, List.forall_mem_cons, List.mem_filterMap]
  constructor
  · intro h d
    obtain ⟨ht, he⟩ := h _ (m.mem_profiles d)
    rw [dialect_profile] at ht he
    exact ⟨ht, fun dir ⟨other, hm, hd⟩ => he other hm dir hd⟩
  · intro h profile _
    exact ⟨(h profile.dialect).1, fun other hm dir hd => (h profile.dialect).2 dir ⟨other, hm, hd⟩⟩

/-! ## All checks -/

/-- **A manifest is let through exactly if it makes sense.** -/
theorem check_eq_ok {source : ManifestSource} : m.check source = .ok () ↔ m.Valid := by
  simp only [check, andThen_eq_ok, checkGenerator_eq_ok, list_forM_eq_ok, checkDialect_eq_ok,
    checkReplacer_eq_ok, checkLayout_eq_ok]
  constructor
  · rintro ⟨⟨h₁, h₂, h₃, h₄, h₅, h₆⟩, h₇, h₈, h₉⟩
    exact ⟨h₁, h₂, h₃, h₄, h₅, h₆, h₇, h₈, h₉⟩
  · rintro ⟨h₁, h₂, h₃, h₄, h₅, h₆, h₇, h₈, h₉⟩
    exact ⟨⟨h₁, h₂, h₃, h₄, h₅, h₆⟩, h₇, h₈, h₉⟩

theorem valid_of_read {text fileName : String} (h : read text fileName = .ok m) : m.Valid := by
  unfold read at h
  split at h
  · cases h
  · obtain ⟨_, hc, h⟩ := bind_eq_ok.1 h
    obtain rfl := pure_eq_ok.1 h
    exact check_eq_ok.1 hc

end Manifest

end Multidialect
