import Multidialect.Pipeline.Builtin
import Mathlib.Data.List.Induction

/-! # The order of passes

However passes are added to a pipeline, it holds them stage by stage, and those of one stage in the
order in which they were added (`Pipeline.passes_addPasses`). So nothing runs behind the passes of
the last stage (`Pipeline.exists_front_verify`).
-/

namespace Multidialect

namespace Stage

/-- The stages before one, that one, and the stages behind it. -/
theorem exists_all_eq (s : Stage) :
    ∃ early late, all = early ++ s :: late ∧ (∀ e ∈ early, e.index < s.index) ∧
      ∀ l ∈ late, s.index < l.index := by
  refine ⟨all.filter (·.index < s.index), all.filter (s.index < ·.index), ?_, ?_, ?_⟩
  · cases s <;> rfl
  · intro e he
    simpa using (List.mem_filter.1 he).2
  · intro l hl
    simpa using (List.mem_filter.1 hl).2

end Stage

namespace Pass

/-- The passes that every rendering runs, as they are added. -/
def standard (registry : ReplacerRegistry) : List Pass :=
  [.replace registry, .directives, .typeParams, .identifiers, .snippets, .verify]

/-- The passes of one stage. -/
def ofStage (s : Stage) (ps : List Pass) : List Pass := ps.filter (·.stage = s)

/-- The passes stage by stage. -/
def byStage (ps : List Pass) : List Pass := Stage.all.flatMap (ofStage · ps)

theorem stage_of_mem {s : Stage} {ps : List Pass} {p : Pass} (h : p ∈ ofStage s ps) :
    p.stage = s := by
  simpa using (List.mem_filter.1 h).2

theorem ofStage_concat_self (p : Pass) (ps : List Pass) :
    ofStage p.stage (ps ++ [p]) = ofStage p.stage ps ++ [p] := by
  simp [ofStage]

theorem ofStage_concat_of_ne {s : Stage} {p : Pass} (h : p.stage ≠ s) (ps : List Pass) :
    ofStage s (ps ++ [p]) = ofStage s ps := by
  simp [ofStage, h]

end Pass

namespace Pipeline

/-- A pass goes behind those of its own stage and of earlier ones. -/
theorem insertByStage_append {p : Pass} {front back : List Pass}
    (hfront : ∀ q ∈ front, q.stage.index ≤ p.stage.index)
    (hback : ∀ q ∈ back, p.stage.index < q.stage.index) :
    insertByStage p (front ++ back) = front ++ p :: back := by
  induction front with
  | nil =>
    cases back with
    | nil => rfl
    | cons q back => simp [insertByStage, hback q (.head _)]
  | cons q front ih =>
    have hq : ¬ p.stage.index < q.stage.index := Nat.not_lt.2 (hfront q (.head _))
    rw [List.cons_append, insertByStage, if_neg hq, ih fun r hr => hfront r (.tail _ hr)]
    rfl

/-- One more pass, in passes that stand stage by stage. -/
theorem insertByStage_byStage (p : Pass) (ps : List Pass) :
    insertByStage p (Pass.byStage ps) = Pass.byStage (ps ++ [p]) := by
  obtain ⟨early, late, hall, hearly, hlate⟩ := p.stage.exists_all_eq
  -- Only the passes of the new pass's own stage become more.
  have hother : ∀ stages : List Stage, p.stage ∉ stages →
      stages.flatMap (Pass.ofStage · (ps ++ [p])) = stages.flatMap (Pass.ofStage · ps) := by
    intro stages hstages
    simp only [List.flatMap_def]
    congr 1
    refine List.map_congr_left fun s hs => ?_
    exact Pass.ofStage_concat_of_ne (fun he => hstages (he ▸ hs)) ps
  have he : p.stage ∉ early := fun h => Nat.lt_irrefl _ (hearly _ h)
  have hl : p.stage ∉ late := fun h => Nat.lt_irrefl _ (hlate _ h)
  simp only [Pass.byStage, hall, List.flatMap_append, List.flatMap_cons, hother early he,
    hother late hl, Pass.ofStage_concat_self]
  rw [← List.append_assoc, insertByStage_append]
  · simp
  · intro q hq
    rcases List.mem_append.1 hq with hq | hq
    · obtain ⟨s, hs, hq⟩ := List.mem_flatMap.1 hq
      rw [Pass.stage_of_mem hq]
      exact Nat.le_of_lt (hearly s hs)
    · exact Nat.le_of_eq (congrArg Stage.index (Pass.stage_of_mem hq))
  · intro q hq
    obtain ⟨s, hs, hq⟩ := List.mem_flatMap.1 hq
    rw [Pass.stage_of_mem hq]
    exact hlate s hs

theorem addPasses_concat (pipeline : Pipeline) (ps : List Pass) (p : Pass) :
    pipeline.addPasses (ps ++ [p]) = (pipeline.addPasses ps).addPass p := by
  simp [addPasses]

/-- **The order of passes**: stage by stage, and in one stage as they were added. -/
theorem passes_addPasses (ps : List Pass) : (empty.addPasses ps).passes = Pass.byStage ps := by
  induction ps using List.reverseRecOn with
  | nil => rfl
  | append_singleton ps p ih =>
    rw [addPasses_concat, addPass, ih, insertByStage_byStage]

theorem standard_eq (registry : ReplacerRegistry) :
    standard registry = empty.addPasses (Pass.standard registry) := rfl

theorem passes_standard (registry : ReplacerRegistry) :
    (standard registry).passes = Pass.standard registry := rfl

/-- Behind passes of earlier stages the passes of the last stage come last. -/
theorem exists_front_verify (ps : List Pass) :
    ∃ front, (empty.addPasses ps).passes = front ++ Pass.ofStage .verify ps := by
  refine ⟨[Stage.replace, .directives, .typeParams, .identifiers, .snippets].flatMap
    (Pass.ofStage · ps), ?_⟩
  rw [passes_addPasses]
  simp [Pass.byStage, Stage.all]

end Pipeline

end Multidialect
