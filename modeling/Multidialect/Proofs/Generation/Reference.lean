import Multidialect.Proofs.Generation.Pairs
import Multidialect.Proofs.Manifest.Accepted
import Mathlib.Data.List.Basic

/-! # The modules of the reference dialect

The reference dialect gets every template as it is written, unless it cannot offer it. A manifest
may not say that the reference cannot offer a template, but what is built in may: MySQL offers no
`upsert` and no `$withMaterialized`, also where it is the reference
(`render_reference_verbatim_iff` says exactly when templates are left out,
`reference_template_gated` is a case).
-/

namespace Multidialect

namespace Manifest

variable {m : Manifest}

/-- Whether a manifest has its own list of templates that the reference dialect does not offer; only
an empty one is let through. -/
def liftsReference (m : Manifest) : Bool := (m.dialects.lookup m.reference).any (·.unsupported.isSome)

/-- A manifest that is let through can only empty the list of the reference dialect. -/
theorem unsupported_of_reference (hm : m.Valid) {o : Overrides}
    (h : m.dialects.lookup m.reference = some o) {names : List String}
    (hn : o.unsupported = some names) : names = [] := by
  have hfields := (hm.dialects _ (mem_of_lookup h)).reference rfl
  cases names with
  | nil => rfl
  | cons name names =>
    have : "unsupported" ∈ o.variantOnlyFields := by simp [Overrides.variantOnlyFields, hn]
    rw [hfields] at this
    cases this

/-- What the reference dialect does not offer: what is built in, or nothing. -/
theorem unsupported_referenceProfile (hm : m.Valid) :
    (m.profile m.reference).unsupported =
      if m.liftsReference then [] else m.reference.profile.unsupported := by
  unfold profile liftsReference
  cases hl : m.dialects.lookup m.reference with
  | none => simp
  | some o =>
    cases hu : o.unsupported with
    | none => simp [Profile.merge, hu]
    | some names =>
      obtain rfl := unsupported_of_reference hm hl hu
      simp [Profile.merge, hu, Dictionary.distinct]

theorem allows_reference (hm : m.Valid) (name : String) :
    m.allows name m.reference = true ↔
      (m.reference = .mysql → m.liftsReference = true ∨
        name ≠ "upsert" ∧ name ≠ "$withMaterialized") := by
  rw [allows, Profile.isUnsupported, unsupported_referenceProfile hm]
  cases m.liftsReference with
  | true => simp
  | false => cases m.reference <;> simp [Dialect.profile]

end Manifest

/-- A template as a module of a dialect, as it is written. -/
def GeneratedModule.verbatim (d : Dialect) (t : Template) : GeneratedModule :=
  ⟨t.name, d, (Path.mk d.name).child t.fileName, t.source⟩

namespace Generator

variable {g : Generator}

theorem pairResult_reference {t : Template}
    (h : g.manifest.allows t.name g.manifest.reference = true) :
    g.pairResult g.manifest.reference t = .rendered t.source.toList [] := by
  simp [pairResult, renderOne, renderPair, h, Manifest.referenceProfile]

theorem moduleOf?_reference {t : Template}
    (h : g.manifest.allows t.name g.manifest.reference = true) :
    g.moduleOf? g.manifest.reference t = some (.verbatim g.manifest.reference t) := by
  simp [moduleOf?, RenderedPair.module?, pairResult_reference h, GeneratedModule.verbatim]

theorem mem_gated_render {ts : List Template} {ds : List Dialect} {name : String} {d : Dialect} :
    (name, d) ∈ (g.render ts ds).gated ↔
      d ∈ ds ∧ ∃ t ∈ ts, t.name = name ∧ g.manifest.allows name d = false := by
  simp only [Rendered.gated, pairs_render, List.mem_filterMap, List.mem_flatMap, List.mem_map]
  constructor
  · rintro ⟨_, ⟨d', hd, t, ht, rfl⟩, h⟩
    unfold RenderedPair.gated? at h
    split at h
    · rename_i hr
      obtain ⟨rfl, rfl⟩ := Prod.mk.inj (Option.some.inj h)
      exact ⟨hd, t, ht, rfl, g.pairResult_eq_gated.1 hr⟩
    · cases h
  · rintro ⟨hd, t, ht, rfl, ha⟩
    exact ⟨_, ⟨d, hd, t, ht, rfl⟩, by simp [RenderedPair.gated?, g.pairResult_of_gated ha]⟩

/-- The reference dialect never fails. -/
theorem dialect_ne_of_mem_failures {ts : List Template} {ds : List Dialect} {f : PairFailure}
    (h : f ∈ (g.render ts ds).failures) : f.dialect ≠ g.manifest.reference := by
  simp only [Rendered.failures, pairs_render, List.mem_filterMap, List.mem_flatMap,
    List.mem_map] at h
  obtain ⟨_, ⟨d, -, t, -, rfl⟩, hf⟩ := h
  unfold RenderedPair.failure? at hf
  split at hf
  · rename_i message hr
    obtain rfl := Option.some.inj hf
    rintro rfl
    have hr : g.pairResult g.manifest.reference t = .failed message := hr
    cases ha : g.manifest.allows t.name g.manifest.reference with
    | true => rw [pairResult_reference ha] at hr; cases hr
    | false => rw [g.pairResult_of_gated ha] at hr; cases hr
  · cases hf

/-- **When the reference dialect gets every template as it is written**: for each time that the
reference is asked for one module for each template, in order, and nothing gated or failed. It does
unless the reference is MySQL and a template is one that MySQL does not offer. -/
theorem render_reference_verbatim_iff {text fileName : String} {m : Manifest}
    (h : Manifest.read text fileName = .ok m) (root : Path) (ts : List Template)
    {ds : List Dialect} (hd : m.reference ∈ ds) :
    ((render ⟨m, root⟩ ts ds).modules.filter (·.dialect == m.reference) =
          (List.replicate (ds.count m.reference)
            (ts.map (GeneratedModule.verbatim m.reference))).flatten ∧
        (∀ pair ∈ (render ⟨m, root⟩ ts ds).gated, pair.2 ≠ m.reference) ∧
        ∀ f ∈ (render ⟨m, root⟩ ts ds).failures, f.dialect ≠ m.reference) ↔
      (m.reference = .mysql → m.liftsReference = true ∨
        ∀ t ∈ ts, t.name ≠ "upsert" ∧ t.name ≠ "$withMaterialized") := by
  have hm := Manifest.valid_of_read h
  have hallows : (∀ t ∈ ts, m.allows t.name m.reference = true) ↔
      (m.reference = .mysql → m.liftsReference = true ∨
        ∀ t ∈ ts, t.name ≠ "upsert" ∧ t.name ≠ "$withMaterialized") := by
    simp only [Manifest.allows_reference hm]
    constructor
    · intro ha hr
      by_cases hl : m.liftsReference = true
      · exact .inl hl
      · exact .inr fun t ht => (ha t ht hr).resolve_left hl
    · intro ha t ht hr
      exact (ha hr).imp_right fun hn => hn t ht
  rw [← hallows]
  constructor
  · rintro ⟨-, hgated, -⟩ t ht
    refine eq_true_of_ne_false fun ha => ?_
    have hmem : (t.name, m.reference) ∈ (render ⟨m, root⟩ ts ds).gated :=
      mem_gated_render.2 ⟨hd, t, ht, rfl, ha⟩
    exact hgated _ hmem rfl
  · intro ha
    refine ⟨?_, fun pair hp he => ?_, fun f hf => dialect_ne_of_mem_failures hf⟩
    · rw [filter_modules_render]
      have hmap : ts.filterMap (moduleOf? ⟨m, root⟩ m.reference) =
          ts.map (GeneratedModule.verbatim m.reference) := by
        rw [← List.filterMap_eq_map]
        exact List.filterMap_congr fun t ht => moduleOf?_reference (g := ⟨m, root⟩) (ha t ht)
      rw [hmap]
    · obtain ⟨-, t, ht, hn, hg⟩ := mem_gated_render.1 (show (pair.1, pair.2) ∈ _ from hp)
      rw [he, ← hn, ha t ht] at hg
      cases hg

/-- With the settings that are built in, PostgreSQL gets `upsert` as it is written. -/
theorem render_reference_verbatim_standard :
    Manifest.read "" "dialectic.toml" = .ok .standard ∧
      (render ⟨.standard, ⟨"."⟩⟩ [.ofSource "upsert.ts" "export {}"] [.mysql, .pg]).modules.filter
          (·.dialect == .pg) =
        [.verbatim .pg (.ofSource "upsert.ts" "export {}")] := by
  have h : Manifest.read "" "dialectic.toml" = .ok .standard := ok_of_toOption (by decide +kernel)
  refine ⟨h, ?_⟩
  have hd : Manifest.standard.reference ∈ [Dialect.mysql, .pg] := by decide
  exact ((render_reference_verbatim_iff h ⟨"."⟩ [.ofSource "upsert.ts" "export {}"] hd).2
    fun hr => absurd hr (by decide)).1

/-- **The reference dialect may lose a template**: MySQL does not offer `upsert`, so it is gated also
where the templates are written in MySQL. -/
theorem reference_template_gated :
    ∃ m : Manifest,
      Manifest.read "[generator]\nreference = \"mysql\"\n" "dialectic.toml" = .ok m ∧
      m.reference = .mysql ∧
      (render ⟨m, ⟨"."⟩⟩ [.ofSource "upsert.ts" "export {}"] [.mysql]).modules = [] ∧
      (render ⟨m, ⟨"."⟩⟩ [.ofSource "upsert.ts" "export {}"] [.mysql]).gated =
        [("upsert", .mysql)] := by
  refine ⟨{ Manifest.standard with generator := { GeneratorSettings.standard with
    reference := .mysql } }, ok_of_toOption (by decide +kernel), rfl, by decide +kernel,
    by decide +kernel⟩

end Generator

end Multidialect
