import Multidialect.Proofs.Generation.Reference

/-! # Every pair on its own

A run goes through the dialects and, for each of them, through the templates, and fills four lists:
what comes of a pair is put behind what is there (`Rendered.lists_concat`), for one pair after another
(`Generator.renderWith_eq_foldl`), whichever plugins look on.

Without plugins the lists are made of what each pair gives alone, dialect by dialect and template by
template, and a pair alone gives one module, one gated pair or one failure (`Rendered.IsOf`). It is
gated exactly if the dialect's profile does not offer the template; nothing else about the template
has a say in that. The table of treatments tells the same (`render_isolated`).
-/

namespace Multidialect

namespace Rendered

/-! ## The lists of a run, filled -/

/-- The lists that a run fills. -/
structure Lists where
  modules : List GeneratedModule
  gated : List (String × Dialect)
  failures : List PairFailure
  diagnostics : List Diagnostic

/-- The lists before the first pair. -/
def Lists.empty : Lists := ⟨[], [], [], []⟩

/-- The lists with what came of one pair more. -/
def Lists.record (ls : Lists) (t : Template) (d : Dialect) : PairResult → Lists
  | .gated => { ls with gated := ls.gated ++ [(t.name, d)] }
  | .rendered content remarks =>
    { ls with
      modules := ls.modules ++
        [⟨t.name, d, (Path.mk d.name).child t.fileName, String.ofList content⟩]
      diagnostics := ls.diagnostics ++ remarks }
  | .failed message => { ls with failures := ls.failures ++ [⟨t.name, d, message⟩] }

/-- The lists that are read off all pairs. -/
def lists (r : Rendered) : Lists := ⟨r.modules, r.gated, r.failures, r.diagnostics⟩

theorem lists_nil : lists ⟨[]⟩ = .empty := rfl

/-- What one pair more adds to the lists. -/
theorem lists_concat (ps : List RenderedPair) (t : Template) (d : Dialect) (result : PairResult) :
    lists ⟨ps ++ [⟨t, d, result⟩]⟩ = (lists ⟨ps⟩).record t d result := by
  cases result <;>
    simp [lists, Lists.record, modules, gated, failures, diagnostics, RenderedPair.module?,
      RenderedPair.gated?, RenderedPair.failure?, RenderedPair.diagnostics]

/-! ## The lists of one pair -/

/-- What the lists of a run hold that is for one pair only, by what came of the pair. -/
def IsOf (r : Rendered) (t : Template) (d : Dialect) : PairResult → Prop
  | .gated => r.modules = [] ∧ r.gated = [(t.name, d)] ∧ r.failures = [] ∧ r.diagnostics = []
  | .rendered content remarks =>
    r.modules = [⟨t.name, d, (Path.mk d.name).child t.fileName, String.ofList content⟩] ∧
      r.gated = [] ∧ r.failures = [] ∧ r.diagnostics = remarks
  | .failed message =>
    r.modules = [] ∧ r.gated = [] ∧ r.failures = [⟨t.name, d, message⟩] ∧ r.diagnostics = []

/-- How a run treats a pair, as its list of gated pairs shows. -/
def treatment (r : Rendered) (reference : Dialect) (template : String) (d : Dialect) :
    Availability :=
  if (template, d) ∈ r.gated then .gated else if d = reference then .reference else .generated

/-- The lists of a run for one pair are given by what comes of the pair. -/
theorem isOf_single {r : Rendered} {t : Template} {d : Dialect} {result : PairResult}
    (h : r.pairs = [⟨t, d, result⟩]) : r.IsOf t d result := by
  have hlists : r.lists = Lists.empty.record t d result := by
    obtain ⟨ps⟩ := r
    subst h
    exact lists_concat [] t d result
  cases result <;>
    exact ⟨congrArg Lists.modules hlists, congrArg Lists.gated hlists,
      congrArg Lists.failures hlists, congrArg Lists.diagnostics hlists⟩

end Rendered

namespace Generator

variable (g : Generator)

/-! ## Pairs one after another -/

section

variable {σ : Type} (plugins : List (Plugin σ))

/-- The step of a run: renders a pair, and records what comes of it. -/
def renderStep (d : Dialect) (s : σ × Rendered.Lists) (t : Template) : σ × Rendered.Lists :=
  let (kept, result) := g.renderOne plugins d t s.1
  (kept, s.2.record t d result)

theorem renderPairs_eq_foldl (ps : List (Dialect × Template)) (kept : σ)
    (seen : List RenderedPair) :
    ((g.renderPairs plugins ps kept).1,
        Rendered.lists ⟨seen ++ (g.renderPairs plugins ps kept).2⟩) =
      ps.foldl (fun s p => g.renderStep plugins p.1 s p.2) (kept, Rendered.lists ⟨seen⟩) := by
  induction ps generalizing kept seen with
  | nil => rw [renderPairs, List.append_nil, List.foldl_nil]
  | cons p ps ih =>
    obtain ⟨d, t⟩ := p
    have hstep : g.renderStep plugins d (kept, Rendered.lists ⟨seen⟩) t =
        ((g.renderOne plugins d t kept).1,
          Rendered.lists ⟨seen ++ [⟨t, d, (g.renderOne plugins d t kept).2⟩]⟩) := by
      rw [Rendered.lists_concat, renderStep]
    rw [List.foldl_cons, hstep, ← ih, renderPairs, List.append_assoc]
    rfl

/-- **The lists are filled** pair by pair, dialect by dialect, while plugins look on. -/
theorem renderWith_eq_foldl (ts : List Template) (ds : List Dialect) (kept : σ) :
    ((g.renderWith plugins ts ds kept).1, (g.renderWith plugins ts ds kept).2.lists) =
      ds.foldl (fun s d => ts.foldl (g.renderStep plugins d) s) (kept, .empty) := by
  have hpairs := g.renderPairs_eq_foldl plugins (pairsOf ds ts) kept []
  rw [Rendered.lists_nil, pairsOf, List.foldl_flatMap] at hpairs
  simp only [List.foldl_map] at hpairs
  exact hpairs

end

/-! ## What comes of a pair -/

theorem pairs_render_single (d : Dialect) (t : Template) :
    (g.render [t] [d]).pairs = [⟨t, d, g.pairResult d t⟩] := by
  simp [pairs_render]

theorem pairResult_of_allowed {d : Dialect} {t : Template}
    (h : g.manifest.allows t.name d = true) :
    g.pairResult d t =
      match (g.renderPair [] t (g.manifest.profile d) g.manifest.referenceProfile ()).2 with
      | .ok (content, remarks) => .rendered content remarks
      | .error e => .failed (e.message t.name) := by
  unfold pairResult renderOne
  rw [if_pos h]
  generalize g.renderPair _ _ _ _ () = r
  obtain ⟨kept, result⟩ := r
  cases result <;> rfl

theorem renderPair_of_rendered {d : Dialect} {t : Template} {content : Text}
    {remarks : List Diagnostic} (h : g.pairResult d t = .rendered content remarks) :
    (g.renderPair [] t (g.manifest.profile d) g.manifest.referenceProfile ()).2 =
      .ok (content, remarks) := by
  cases ha : g.manifest.allows t.name d with
  | false => rw [g.pairResult_of_gated ha] at h; cases h
  | true =>
    rw [g.pairResult_of_allowed ha] at h
    split at h
    · rename_i hr
      obtain ⟨rfl, rfl⟩ := PairResult.rendered.inj h
      exact hr
    · cases h

theorem renderPair_of_failed {d : Dialect} {t : Template} {message : String}
    (h : g.pairResult d t = .failed message) :
    ∃ e, (g.renderPair [] t (g.manifest.profile d) g.manifest.referenceProfile ()).2 = .error e ∧
      message = e.message t.name := by
  cases ha : g.manifest.allows t.name d with
  | false => rw [g.pairResult_of_gated ha] at h; cases h
  | true =>
    rw [g.pairResult_of_allowed ha] at h
    split at h
    · cases h
    · rename_i e hr
      exact ⟨e, hr, (PairResult.failed.inj h).symm⟩

/-- What a variant's module holds is what the pipeline leaves. -/
theorem exists_run_of_rendered {d : Dialect} {t : Template} {content : Text}
    {remarks : List Diagnostic} (hd : d ≠ g.manifest.reference)
    (h : g.pairResult d t = .rendered content remarks) :
    ∃ s : Attended Unit,
      g.pipeline.run [] ⟨t, g.manifest.profile d, g.manifest.referenceProfile, g.manifest⟩
          ⟨.ofTemplate t, ()⟩ = (s, .ok ()) ∧
        s.draft.text = content ∧ s.draft.diagnostics = remarks := by
  have hr := g.renderPair_of_rendered h
  unfold renderPair at hr
  rw [if_neg (by simpa [Manifest.referenceProfile] using hd)] at hr
  dsimp only at hr
  split at hr
  · rename_i s hrun
    obtain ⟨hc, hr⟩ := Prod.mk.inj (Except.ok.inj hr)
    exact ⟨s, hrun, hc, hr⟩
  · cases hr

theorem exists_rendered_of_mem_modules {ts : List Template} {ds : List Dialect}
    {x : GeneratedModule} (h : x ∈ (g.render ts ds).modules) :
    x.dialect ∈ ds ∧ ∃ t ∈ ts, ∃ content remarks,
      g.pairResult x.dialect t = .rendered content remarks ∧ x.content = String.ofList content := by
  rw [modules_render] at h
  obtain ⟨d, hd, h⟩ := List.mem_flatMap.1 h
  obtain ⟨t, ht, h⟩ := List.mem_filterMap.1 h
  unfold moduleOf? RenderedPair.module? at h
  split at h
  · rename_i content remarks hr
    obtain rfl := Option.some.inj h
    exact ⟨hd, t, ht, content, remarks, hr, rfl⟩
  · cases h

theorem isUnsupported_iff {d : Dialect} {name : String} :
    g.manifest.allows name d = false ↔ name ∈ (g.manifest.profile d).unsupported := by
  simp [Manifest.allows, Profile.isUnsupported]

/-! ## The lists of a run -/

/-- What is read off the pairs of a run, each on its own, is read off the runs for each pair. -/
theorem flatMap_pairs_render {β : Type} (f : RenderedPair → List β) (ts : List Template)
    (ds : List Dialect) :
    (g.render ts ds).pairs.flatMap f =
      ds.flatMap fun d => ts.flatMap fun t => (g.render [t] [d]).pairs.flatMap f := by
  simp [pairs_render, List.flatMap_assoc, List.flatMap_map]

theorem filterMap_pairs_render {β : Type} (f : RenderedPair → Option β) (ts : List Template)
    (ds : List Dialect) :
    (g.render ts ds).pairs.filterMap f =
      ds.flatMap fun d => ts.flatMap fun t => (g.render [t] [d]).pairs.filterMap f := by
  simp only [List.filterMap_eq_flatMap_toList]
  exact g.flatMap_pairs_render _ ts ds

/-! ## The table -/

theorem availability_eq_treatment {ts : List Template} {ds : List Dialect} {t : Template}
    {d : Dialect} (ht : t ∈ ts) (hd : d ∈ ds) :
    g.availability t d = (g.render ts ds).treatment g.manifest.reference t.name d := by
  have hgated : (t.name, d) ∈ (g.render ts ds).gated ↔ g.manifest.allows t.name d = false := by
    rw [mem_gated_render]
    exact ⟨fun ⟨_, _, _, _, ha⟩ => ha, fun ha => ⟨hd, t, ht, rfl, ha⟩⟩
  unfold availability Rendered.treatment
  cases ha : g.manifest.allows t.name d <;> simp [hgated, ha]

/-- **Every pair is treated on its own.** -/
theorem render_isolated (ts : List Template) (ds : List Dialect) :
    -- The lists of a run are those of its pairs alone, dialect by dialect.
    ((g.render ts ds).modules =
        ds.flatMap fun d => ts.flatMap fun t => (g.render [t] [d]).modules) ∧
      ((g.render ts ds).gated =
        ds.flatMap fun d => ts.flatMap fun t => (g.render [t] [d]).gated) ∧
      ((g.render ts ds).failures =
        ds.flatMap fun d => ts.flatMap fun t => (g.render [t] [d]).failures) ∧
      ((g.render ts ds).diagnostics =
        ds.flatMap fun d => ts.flatMap fun t => (g.render [t] [d]).diagnostics) ∧
      -- A pair alone has one outcome.
      (∀ d t, ∃ result, (g.render [t] [d]).IsOf t d result ∧
        (result = .gated ↔ t.name ∈ (g.manifest.profile d).unsupported) ∧
        (∀ content remarks, result = .rendered content remarks →
          (g.renderPair [] t (g.manifest.profile d) g.manifest.referenceProfile ()).2 =
            .ok (content, remarks)) ∧
        ∀ message, result = .failed message →
          ∃ e, (g.renderPair [] t (g.manifest.profile d) g.manifest.referenceProfile ()).2 =
            .error e ∧ message = e.message t.name) ∧
      -- The table has a row for each template, with the treatment that a run gives each pair.
      ((g.matrix ts).map (·.template) = ts.map (·.name)) ∧
      ∀ row ∈ g.matrix ts, row.dialects.map Prod.fst = Dialect.all ∧
        ∀ entry ∈ row.dialects, entry.1 ∈ ds →
          entry.2 = (g.render ts ds).treatment g.manifest.reference row.template entry.1 := by
  refine ⟨g.filterMap_pairs_render _ ts ds, g.filterMap_pairs_render _ ts ds,
    g.filterMap_pairs_render _ ts ds, g.flatMap_pairs_render _ ts ds, fun d t => ?_, ?_, ?_⟩
  · refine ⟨g.pairResult d t, Rendered.isOf_single (g.pairs_render_single d t), ?_, ?_, ?_⟩
    · rw [pairResult_eq_gated, isUnsupported_iff]
    · exact fun content remarks h => g.renderPair_of_rendered h
    · exact fun message h => g.renderPair_of_failed h
  · simp [matrix]
  · intro row hrow
    obtain ⟨t, ht, rfl⟩ := List.mem_map.1 hrow
    refine ⟨by simp [Function.comp_def], fun entry hentry hd => ?_⟩
    obtain ⟨d, -, rfl⟩ := List.mem_map.1 hentry
    exact g.availability_eq_treatment ht hd

/-- A broken template that a dialect does not offer is gated all the same, and another one fails for
its own reason. -/
theorem render_isolated_broken :
    let templates : List Template :=
      [.ofSource "upsert.ts" "// @end a\n", .ofSource "cursor.ts" "// @end b\n"]
    (render ⟨.standard, ⟨"."⟩⟩ templates [.mysql, .pg]).gated = [("upsert", .mysql)] ∧
      (render ⟨.standard, ⟨"."⟩⟩ templates [.mysql, .pg]).failures =
        [⟨"cursor", .mysql, "cursor:1: `@end b` has no matching `@start`"⟩] := by
  intro templates
  obtain ⟨-, hgated, hfailures, -⟩ :=
    render_isolated ⟨.standard, ⟨"."⟩⟩ templates [.mysql, .pg]
  rw [hgated, hfailures]
  exact ⟨by decide +kernel, by decide +kernel⟩

end Generator

end Multidialect
