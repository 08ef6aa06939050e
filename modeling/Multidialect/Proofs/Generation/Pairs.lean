import Multidialect.Generation.Render
import Multidialect.Proofs.Pipeline.Run

/-! # What comes of each pair

Without plugins the passes work on the draft alone (`Pipeline.run_nil`), so what comes of a pair
depends on the template and the dialect only (`renderOne_nil`), and what comes of all pairs is what
comes of each (`renderWith_nil`, `pairs_render`).
-/

namespace Multidialect

variable {σ : Type}

namespace Generator

variable (g : Generator)

/-! ## Pairs on their own -/

/-- What comes of a pair that nobody looks at. -/
def pairResult (d : Dialect) (t : Template) : PairResult := (g.renderOne [] d t ()).2

theorem renderPair_nil (t : Template) (profile reference : Profile) (kept : σ) :
    g.renderPair [] t profile reference kept =
      (kept, (g.renderPair [] t profile reference ()).2) := by
  unfold renderPair
  split
  · rfl
  · simp only [Pipeline.run_nil]
    generalize (Action.inOrder _ _) = r
    obtain ⟨draft, result⟩ := r
    cases result <;> rfl

/-- **What comes of a pair** without plugins has nothing to do with what is kept. -/
theorem renderOne_nil (d : Dialect) (t : Template) (kept : σ) :
    g.renderOne [] d t kept = (kept, g.pairResult d t) := by
  unfold pairResult renderOne
  split
  · rw [g.renderPair_nil t _ _ kept, g.renderPair_nil t _ _ ()]
    generalize (g.renderPair _ _ _ _ _).2 = r
    cases r <;> rfl
  · rfl

theorem renderPairs_nil (ps : List (Dialect × Template)) (kept : σ) :
    g.renderPairs [] ps kept = (kept, ps.map fun p => ⟨p.2, p.1, g.pairResult p.1 p.2⟩) := by
  induction ps with
  | nil => rfl
  | cons p ps ih =>
    obtain ⟨d, t⟩ := p
    simp only [renderPairs, renderOne_nil, ih, List.map_cons]

theorem pairs_render (ts : List Template) (ds : List Dialect) :
    (g.render ts ds).pairs = ds.flatMap fun d => ts.map fun t => ⟨t, d, g.pairResult d t⟩ := by
  simp only [render, renderWith, renderPairs_nil, pairsOf, List.map_flatMap, List.map_map]
  rfl

/-- **A run without plugins** keeps nothing, and each pair is rendered on its own. -/
theorem renderWith_nil (ts : List Template) (ds : List Dialect) (kept : σ) :
    g.renderWith [] ts ds kept = (kept, g.render ts ds) := by
  simp only [render, renderWith, renderPairs_nil]

theorem pairResult_of_gated {d : Dialect} {t : Template} (h : g.manifest.allows t.name d = false) :
    g.pairResult d t = .gated := by
  simp [pairResult, renderOne, h]

theorem pairResult_eq_gated {d : Dialect} {t : Template} :
    g.pairResult d t = .gated ↔ g.manifest.allows t.name d = false := by
  refine ⟨fun h => ?_, g.pairResult_of_gated⟩
  unfold pairResult renderOne at h
  split at h
  · split at h <;> cases h
  · rename_i ha
    simpa using ha

/-! ## The modules of a dialect -/

/-- The module of a pair, if the pair has one. -/
def moduleOf? (d : Dialect) (t : Template) : Option GeneratedModule :=
  RenderedPair.module? ⟨t, d, g.pairResult d t⟩

theorem moduleOf?_eq_some {d : Dialect} {t : Template} {x : GeneratedModule}
    (h : g.moduleOf? d t = some x) :
    x.dialect = d ∧ x.template = t.name ∧ x.path = (Path.mk d.name).child t.fileName ∧
      g.manifest.allows t.name d = true := by
  unfold moduleOf? RenderedPair.module? at h
  split at h
  · rename_i content ds hr
    obtain rfl := Option.some.inj h
    refine ⟨rfl, rfl, rfl, ?_⟩
    cases ha : g.manifest.allows t.name d with
    | true => rfl
    | false =>
      have hr : g.pairResult d t = .rendered content ds := hr
      rw [g.pairResult_of_gated ha] at hr
      cases hr
  · cases h

theorem modules_render (ts : List Template) (ds : List Dialect) :
    (g.render ts ds).modules = ds.flatMap fun d => ts.filterMap (g.moduleOf? d) := by
  rw [Rendered.modules, pairs_render, List.filterMap_flatMap]
  simp only [List.filterMap_map]
  rfl

theorem filter_flatMap_single {α β : Type} [BEq α] [LawfulBEq α] (key : β → α) (a : α)
    (f : α → List β) (hf : ∀ x, ∀ y ∈ f x, key y = x) (xs : List α) :
    (xs.flatMap f).filter (key · == a) = (List.replicate (xs.count a) (f a)).flatten := by
  induction xs with
  | nil => rfl
  | cons x xs ih =>
    rw [List.flatMap_cons, List.filter_append, ih, List.count_cons]
    by_cases h : x = a
    · subst h
      have hall : (f x).filter (key · == x) = f x :=
        List.filter_eq_self.2 fun y hy => by simp [hf x y hy]
      rw [hall, beq_self_eq_true, if_pos rfl, List.replicate_succ, List.flatten_cons]
    · have hnone : (f x).filter (key · == a) = [] :=
        List.filter_eq_nil_iff.2 fun y hy => by simp [hf x y hy, h]
      rw [hnone, if_neg (by simpa using h), List.nil_append, Nat.add_zero]

/-- **The modules of a dialect**: those of all templates, for each time that it is asked for. -/
theorem filter_modules_render (ts : List Template) (ds : List Dialect) (d : Dialect) :
    (g.render ts ds).modules.filter (·.dialect == d) =
      (List.replicate (ds.count d) (ts.filterMap (g.moduleOf? d))).flatten := by
  rw [modules_render]
  refine filter_flatMap_single GeneratedModule.dialect d _ (fun d' x hx => ?_) ds
  obtain ⟨t, -, ht⟩ := List.mem_filterMap.1 hx
  exact (g.moduleOf?_eq_some ht).1

end Generator

end Multidialect
