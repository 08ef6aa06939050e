import Multidialect.Proofs.Generation.Isolation
import Multidialect.Proofs.Pipeline.Order

/-! # Dialects do not hear of each other

What a manifest says of one variant reaches no other dialect. A rendering reads the profiles of its
own dialect and of the reference, the settings of the run, the canonical names and the replacers;
although every pass is given the whole manifest, none looks at what it says of the dialects
(`Pass.blind_of_mem_standard`). So manifests that differ in one variant's overrides give the same
modules, gated pairs, failures and remarks for all other dialects (`Generator.render_independent`).
-/

namespace Multidialect

/-! ## Manifests that differ in one dialect -/

namespace Manifest

/-- Manifests that differ at most in what they say of the dialect `other`. -/
structure AgreeBut (other : Dialect) (m₁ m₂ : Manifest) : Prop where
  generator : m₁.generator = m₂.generator
  types : m₁.types = m₂.types
  replacers : m₁.replacers = m₂.replacers
  dialects : ∀ d, d ≠ other → m₁.dialects.lookup d = m₂.dialects.lookup d

namespace AgreeBut

variable {m₁ m₂ : Manifest} {other d : Dialect} (h : m₁.AgreeBut other m₂)
include h

theorem reference : m₁.reference = m₂.reference :=
  congrArg GeneratorSettings.reference h.generator

theorem profile (hd : d ≠ other) : m₁.profile d = m₂.profile d := by
  rw [Manifest.profile, Manifest.profile, h.dialects d hd]

theorem referenceProfile (ho : other ≠ m₁.reference) :
    m₁.referenceProfile = m₂.referenceProfile := by
  rw [Manifest.referenceProfile, Manifest.referenceProfile, ← h.reference, h.profile ho.symm]

theorem allows (hd : d ≠ other) (name : String) : m₁.allows name d = m₂.allows name d := by
  rw [Manifest.allows, Manifest.allows, h.profile hd]

end AgreeBut

end Manifest

/-! ## What passes read -/

/-- Renderings of the same template with the same profiles, under manifests with the same settings
and names. -/
structure RenderContext.Alike (c₁ c₂ : RenderContext) : Prop where
  template : c₁.template = c₂.template
  profile : c₁.profile = c₂.profile
  reference : c₁.reference = c₂.reference
  generator : c₁.manifest.generator = c₂.manifest.generator
  types : c₁.manifest.types = c₂.manifest.types

namespace RenderContext.Alike

variable {c₁ c₂ : RenderContext} (h : c₁.Alike c₂)
include h

theorem dialect : c₁.dialect = c₂.dialect := congrArg Profile.dialect h.profile

theorem location : c₁.location = c₂.location := by
  rw [RenderContext.location, RenderContext.location, h.template, h.dialect]

theorem addInfo (d : Draft) (pass message : String) :
    d.addInfo c₁ pass message = d.addInfo c₂ pass message := by
  rw [Draft.addInfo, Draft.addInfo, h.location]

end RenderContext.Alike

namespace Pass

/-- A pass that does not look at what the manifest says of the dialects and of replacers. -/
def Blind (p : Pass) : Prop := ∀ c₁ c₂, c₁.Alike c₂ → p.run c₁ = p.run c₂

theorem blind_ofText {name description : String} {stage : Stage}
    {change : RenderContext → Text → Except Fault Text}
    (h : ∀ c₁ c₂, c₁.Alike c₂ → change c₁ = change c₂) :
    (ofText name description stage change).Blind := by
  intro c₁ c₂ hc
  simp only [ofText, h c₁ c₂ hc]

theorem blind_replace (registry : ReplacerRegistry) : (replace registry).Blind := by
  intro c₁ c₂ hc
  simp only [replace, hc.dialect, hc.template]

theorem blind_directives : directives.Blind :=
  blind_ofText fun c₁ c₂ hc => by rw [hc.dialect, hc.generator]

theorem blind_typeParams : typeParams.Blind := by
  intro c₁ c₂ hc
  simp only [typeParams, hc.profile, hc.types, hc.addInfo]

theorem blind_identifiers : identifiers.Blind :=
  blind_ofText fun c₁ c₂ hc => by rw [hc.types, hc.reference, hc.profile]

theorem blind_snippets : snippets.Blind :=
  blind_ofText fun c₁ c₂ hc => by rw [hc.profile, hc.template]

theorem blind_verify : verify.Blind :=
  blind_ofText fun c₁ c₂ hc => by rw [hc.dialect]

theorem blind_of_mem_standard {registry : ReplacerRegistry} {p : Pass}
    (hp : p ∈ standard registry) : p.Blind := by
  simp only [standard, List.mem_cons, List.not_mem_nil, or_false] at hp
  obtain rfl | rfl | rfl | rfl | rfl | rfl := hp
  · exact blind_replace registry
  · exact blind_directives
  · exact blind_typeParams
  · exact blind_identifiers
  · exact blind_snippets
  · exact blind_verify

end Pass

/-- Blind passes do the same in alike renderings. -/
theorem Pipeline.run_of_alike {σ : Type} {pipeline : Pipeline}
    (hp : ∀ p ∈ pipeline.passes, p.Blind) {c₁ c₂ : RenderContext} (hc : c₁.Alike c₂)
    (draft : Draft) (kept : σ) :
    pipeline.run [] c₁ ⟨draft, kept⟩ = pipeline.run [] c₂ ⟨draft, kept⟩ := by
  have hpasses : pipeline.passes.map (·.run c₁) = pipeline.passes.map (·.run c₂) :=
    List.map_congr_left fun p hm => hp p hm c₁ c₂ hc
  rw [run_nil, run_nil, hpasses]

/-! ## Two runs -/

namespace Generator

variable {m₁ m₂ : Manifest} {other : Dialect}

theorem renderPair_of_agree (h : m₁.AgreeBut other m₂) (root₁ root₂ : Path) (t : Template)
    (profile reference : Profile) :
    renderPair ⟨m₁, root₁⟩ [] t profile reference () =
      renderPair ⟨m₂, root₂⟩ [] t profile reference () := by
  have hpipeline : pipeline ⟨m₁, root₁⟩ = pipeline ⟨m₂, root₂⟩ := by
    simp only [pipeline, replacers, ReplacerRegistry.ofManifest, h.replacers]
  have hc : RenderContext.Alike ⟨t, profile, reference, m₁⟩ ⟨t, profile, reference, m₂⟩ :=
    ⟨rfl, rfl, rfl, h.generator, h.types⟩
  have hblind : ∀ p ∈ (pipeline ⟨m₂, root₂⟩).passes, p.Blind := fun p hp =>
    Pass.blind_of_mem_standard hp
  have hrun := Pipeline.run_of_alike hblind hc (.ofTemplate t) ()
  simp only [renderPair, hpipeline, hrun]

theorem pairResult_of_agree (h : m₁.AgreeBut other m₂) (ho : other ≠ m₁.reference)
    (root₁ root₂ : Path) {d : Dialect} (hd : d ≠ other) (t : Template) :
    pairResult ⟨m₁, root₁⟩ d t = pairResult ⟨m₂, root₂⟩ d t := by
  simp only [pairResult, renderOne, h.allows hd, h.profile hd, h.referenceProfile ho,
    renderPair_of_agree h root₁ root₂]

/-- **Dialects are independent**: what a manifest says of a variant makes no difference to any other
dialect. -/
theorem render_independent (h : m₁.AgreeBut other m₂) (ho : other ≠ m₁.reference)
    (root₁ root₂ : Path) (ts : List Template) {ds : List Dialect} (hds : other ∉ ds) :
    render ⟨m₁, root₁⟩ ts ds = render ⟨m₂, root₂⟩ ts ds := by
  have hpairs : (render ⟨m₁, root₁⟩ ts ds).pairs = (render ⟨m₂, root₂⟩ ts ds).pairs := by
    rw [pairs_render, pairs_render]
    refine List.flatMap_congr fun d hd => List.map_congr_left fun t _ => ?_
    rw [pairResult_of_agree h ho root₁ root₂ (fun he => hds (he ▸ hd)) t]
  exact congrArg Rendered.mk hpairs

/-- Overrides of SQLite make no difference to MySQL. -/
theorem render_independent_override :
    let lite : Manifest := { Manifest.standard with
      dialects := [(.sqlite, { Overrides.nothing with
        typePrefix := some "Lite", snippets := [("then", "const b = 2")] })] }
    let ts : List Template :=
      [.ofSource "cursor.ts" "type A = PgTable\n// @start then\nconst a = 1\n// @end then\n"]
    Manifest.read "" "dialectic.toml" = .ok .standard ∧
      Manifest.read "[dialects.sqlite]\ntype_prefix = \"Lite\"\nsnippets.then = \"const b = 2\"\n"
        "dialectic.toml" = .ok lite ∧
      Manifest.standard.AgreeBut .sqlite lite ∧
      render ⟨.standard, ⟨"."⟩⟩ ts [.mysql] = render ⟨lite, ⟨"."⟩⟩ ts [.mysql] := by
  intro lite ts
  have h : Manifest.standard.AgreeBut .sqlite lite :=
    ⟨rfl, rfl, rfl, fun d hd => by cases d <;> first | rfl | exact absurd rfl hd⟩
  exact ⟨ok_of_toOption (by decide +kernel), ok_of_toOption (by decide +kernel), h,
    render_independent h (by decide) ⟨"."⟩ ⟨"."⟩ ts (by decide)⟩

end Generator

end Multidialect
