import Multidialect.Proofs.Generation.Isolation
import Multidialect.Proofs.Pipeline.Order
import Multidialect.Proofs.Pipeline.Run
import Multidialect.Proofs.Template.LineEndings

/-! # Line endings from end to end

A template in which every line feed follows a carriage return gives such modules, in whatever way
the overrides of its regions end their lines: each pass keeps it up
(`Pass.crlfOnly_of_mem_standard`), so the pipeline does (`Pipeline.run_keeps_line_endings`), and so
does a run as a whole (`Generator.crlfOnly_of_mem_modules`). Replacers may do anything to a text, so
a template must have none; and no line may end in the code that a dialect's profile puts in.
-/

namespace Multidialect

open Text

/-- What a rendering works with ends no line: names are words, and so far as code is put in, it
stays on its line. Overrides of regions are free. -/
structure RenderContext.Settled (registry : ReplacerRegistry) (c : RenderContext) : Prop where
  replacers : registry.replacers c.template.name = []
  placeholder : IsWord c.manifest.generator.placeholder.toList
  sessions : ∀ session ∈ c.manifest.types.sessions, IsWord session.toList
  reference : c.reference.WellWorded
  profile : c.profile.WellWorded
  typeParams : ∀ p, c.profile.typeParams = some p → '\n' ∉ p.code
  sessionParams : ∀ params, c.profile.sessionParams = some params → '\n' ∉ params

theorem Manifest.Valid.settled {m : Manifest} (hm : m.Valid) {registry : ReplacerRegistry}
    {t : Template} (d : Dialect) (overrides : Dictionary String)
    (hreplacers : registry.replacers t.name = [])
    (hcode : ∀ p, (m.profile d).typeParams = some p → '\n' ∉ p.code)
    (hparams : ∀ params, (m.profile d).sessionParams = some params → '\n' ∉ params) :
    RenderContext.Settled registry
      ⟨t, { m.profile d with snippets := overrides }, m.referenceProfile, m⟩ where
  replacers := hreplacers
  placeholder := NameFault.isWord hm.placeholder
  sessions session hs := NameFault.isWord (hm.types session (List.mem_append_right _ hs))
  reference := hm.wellWorded m.reference
  profile :=
    have hprofile := hm.wellWorded d
    ⟨hprofile.modulePrefix, hprofile.typePrefix, hprofile.renames⟩
  typeParams := hcode
  sessionParams := hparams

/-! ## The passes -/

namespace Pass

variable {registry : ReplacerRegistry} {c : RenderContext} {d d' : Draft}

theorem typeParams_crlfOnly (hc : c.Settled registry) (hd : CrlfOnly d.text) :
    CrlfOnly (typeParams.run c d).1.text := by
  simp only [typeParams]
  cases hp : c.profile.typeParams with
  | none => exact hd
  | some p =>
    have hinject := Generics.inject_crlfOnly c.manifest.types (hc.typeParams p hp) hd
    dsimp only
    split
    · exact hd
    · split
      · exact hinject
      · exact hinject

/-- **Each pass keeps the ends of lines as they are.** -/
theorem crlfOnly_of_mem_standard (hc : c.Settled registry) {p : Pass} (hp : p ∈ standard registry)
    (hd : CrlfOnly d.text) (h : p.run c d = (d', .ok ())) : CrlfOnly d'.text := by
  simp only [standard, List.mem_cons, List.not_mem_nil, or_false] at hp
  rcases hp with rfl | rfl | rfl | rfl | rfl | rfl
  -- Replacers: there are none.
  · simp only [replace, hc.replacers, Replacer.applyAll] at h
    obtain ⟨rfl, -⟩ := Prod.mk.inj h
    exact hd
  -- Directives, type parameters, identifiers and regions, each by its rule.
  · exact Directive.resolveAll_crlfOnly hc.placeholder hd (ofText_eq_ok h)
  · have htext := typeParams_crlfOnly hc hd
    rwa [h] at htext
  · have hadapted := Except.ok.inj (ofText_eq_ok h)
    rw [← hadapted]
    exact Vocabulary.adaptOutsideMarkers_crlfOnly hc.sessions hc.reference hc.profile
      hc.sessionParams hd
  · obtain ⟨segments, hparse, hfill⟩ := map_eq_ok.1 (ofText_eq_ok h)
    rw [← hfill]
    exact Region.fill_crlfOnly _ (Region.returns_of_parse hd hparse)
  -- The last look changes nothing.
  · have hchecked := ofText_eq_ok h
    split at hchecked
    · cases hchecked
    · rw [← Except.ok.inj hchecked]
      exact hd

end Pass

namespace Pipeline

variable {σ : Type}

theorem run_crlfOnly {registry : ReplacerRegistry} {c : RenderContext} (hc : c.Settled registry)
    (hsource : CrlfOnly c.template.source.toList) {kept : σ} {s : Attended σ}
    (h : (standard registry).run [] c ⟨.ofTemplate c.template, kept⟩ = (s, .ok ())) :
    CrlfOnly s.draft.text := by
  refine run_keeps (I := fun d => CrlfOnly d.text) (fun p hp d d' hd hrun => ?_) hsource h
  rw [passes_standard] at hp
  exact Pass.crlfOnly_of_mem_standard hc hp hd hrun

/-- **Line endings are kept**: where every line feed of a template follows a carriage return, so
does every line feed of its modules, whatever is put in place of its regions. -/
theorem run_keeps_line_endings {text fileName : String} {m : Manifest}
    (hm : Manifest.read text fileName = .ok m) {registry : ReplacerRegistry} {t : Template}
    (hreplacers : registry.replacers t.name = []) (hsource : CrlfOnly t.source.toList) (d : Dialect)
    (hcode : ∀ p, (m.profile d).typeParams = some p → '\n' ∉ p.code)
    (hparams : ∀ params, (m.profile d).sessionParams = some params → '\n' ∉ params)
    (overrides : Dictionary String) {kept : σ} {s : Attended σ}
    (h : (standard registry).run []
      ⟨t, { m.profile d with snippets := overrides }, m.referenceProfile, m⟩
      ⟨.ofTemplate t, kept⟩ = (s, .ok ())) : CrlfOnly s.draft.text :=
  run_crlfOnly ((Manifest.valid_of_read hm).settled d overrides hreplacers hcode hparams) hsource h

/-- An override that ends its lines with line feeds alone, in a region whose end marker is the last
line of the template and does not end. -/
theorem run_keeps_line_endings_override :
    let t : Template := .ofSource "cursor.ts"
      "export class A extends RelationalQueryBuilder<\r\n  T> {}\r\n// @start then\r\n// @end then"
    let overrides : Dictionary String := [("then", "const a = 1\nconst b = 2\n")]
    ∃ s : Attended Unit,
      (standard .builtins).run []
          ⟨t, { Manifest.standard.profile .mysql with snippets := overrides },
            Manifest.standard.referenceProfile, .standard⟩ ⟨.ofTemplate t, ()⟩ = (s, .ok ()) ∧
        CrlfOnly s.draft.text := by
  intro t overrides
  have hm : Manifest.read "" "dialectic.toml" = .ok .standard := ok_of_toOption (by decide +kernel)
  obtain ⟨s, hrun⟩ : ∃ s : Attended Unit, (standard .builtins).run []
      ⟨t, { Manifest.standard.profile .mysql with snippets := overrides },
        Manifest.standard.referenceProfile, .standard⟩ ⟨.ofTemplate t, ()⟩ = (s, .ok ()) :=
    Action.exists_eq_ok (by decide +kernel)
  have hcode : ∀ p, (Manifest.standard.profile .mysql).typeParams = some p → '\n' ∉ p.code := by
    rintro p ⟨⟩
    decide
  have hparams : ∀ params, (Manifest.standard.profile .mysql).sessionParams = some params →
      '\n' ∉ params := by
    rintro params ⟨⟩
    decide
  exact ⟨s, hrun, run_keeps_line_endings hm rfl (by decide +kernel) .mysql hcode hparams overrides
    hrun⟩

end Pipeline

namespace Generator

/-- The modules of a run end their lines as the templates do, those of the reference included. -/
theorem crlfOnly_of_mem_modules {g : Generator} (hm : g.manifest.Valid) {ts : List Template}
    {ds : List Dialect}
    (hts : ∀ t ∈ ts, g.replacers.replacers t.name = [] ∧ CrlfOnly t.source.toList)
    (hcode : ∀ d ∈ ds, ∀ p, (g.manifest.profile d).typeParams = some p → '\n' ∉ p.code)
    (hparams : ∀ d ∈ ds, ∀ params, (g.manifest.profile d).sessionParams = some params →
      '\n' ∉ params) :
    ∀ x ∈ (g.render ts ds).modules, CrlfOnly x.content.toList := by
  intro x hx
  obtain ⟨hd, t, ht, content, remarks, hr, hc⟩ := g.exists_rendered_of_mem_modules hx
  obtain ⟨hreplacers, hsource⟩ := hts t ht
  rw [hc, String.toList_ofList]
  by_cases href : x.dialect = g.manifest.reference
  · have hpair := g.renderPair_of_rendered hr
    rw [href] at hpair
    simp only [renderPair, Manifest.referenceProfile, ↓reduceIte] at hpair
    obtain ⟨rfl, -⟩ := Prod.mk.inj (Except.ok.inj hpair)
    exact hsource
  · obtain ⟨s, hrun, rfl, -⟩ := g.exists_run_of_rendered href hr
    have hsettled := hm.settled x.dialect (g.manifest.profile x.dialect).snippets hreplacers
      (hcode _ hd) (hparams _ hd)
    exact Pipeline.run_crlfOnly hsettled hsource hrun

end Generator

end Multidialect
