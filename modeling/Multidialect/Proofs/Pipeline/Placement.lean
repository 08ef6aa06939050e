import Multidialect.Proofs.Pipeline.Order
import Multidialect.Proofs.Sorting

/-! # Where a pass takes its place

Each new pass is put in its place at once, and what a pipeline holds in the end is one stable sort of all
passes by stage (`Pipeline.stableBy_addPasses`). So the pipeline is told by the passes of each stage, in
the order in which they were added (`Pipeline.addPasses_eq_iff`), and a pass that is added to those that
every rendering runs comes behind the one of its own stage, behind the passes of that stage that were
added before, and in front of all passes of later stages (`Pipeline.passes_in_place`).
-/

namespace Multidialect

namespace Stage

theorem index_inj {s s' : Stage} : s.index = s'.index ↔ s = s' := by
  cases s <;> cases s' <;> decide

end Stage

namespace Pass

/-- The place of a pass's stage. -/
def rank (p : Pass) : Nat := p.stage.index

/-- The pass of a stage that every rendering runs. -/
def builtin (registry : ReplacerRegistry) : Stage → Pass
  | .replace => .replace registry
  | .directives => .directives
  | .typeParams => .typeParams
  | .identifiers => .identifiers
  | .snippets => .snippets
  | .verify => .verify

theorem ofStage_standard (registry : ReplacerRegistry) (s : Stage) :
    ofStage s (standard registry) = [builtin registry s] := by
  cases s <;> rfl

theorem ofStage_append (s : Stage) (ps qs : List Pass) :
    ofStage s (ps ++ qs) = ofStage s ps ++ ofStage s qs := List.filter_append ..

theorem filter_rank (s : Stage) (ps : List Pass) : ps.filter (·.rank = s.index) = ofStage s ps := by
  unfold ofStage rank
  simp only [Stage.index_inj]

/-- The passes of one stage among those stage by stage. -/
theorem ofStage_byStage (s : Stage) (ps : List Pass) : ofStage s (byStage ps) = ofStage s ps := by
  have hstage : ∀ s', ofStage s (ofStage s' ps) = if s' = s then ofStage s' ps else [] := by
    intro s'
    split
    · rename_i he
      exact List.filter_eq_self.2 fun p hp => by simp [stage_of_mem hp, he]
    · rename_i hne
      exact List.filter_eq_nil_iff.2 fun p hp => by simp [stage_of_mem hp, hne]
  have hall : ofStage s (byStage ps) = Stage.all.flatMap fun s' => ofStage s (ofStage s' ps) :=
    List.filter_flatMap
  rw [hall]
  simp only [hstage]
  cases s <;> simp [Stage.all]

/-- **Stage by stage is a stable order.** -/
theorem stableBy_byStage (ps : List Pass) : StableBy rank ps (byStage ps) := by
  constructor
  · refine List.pairwise_flatMap.2 ⟨fun s _ => ?_, ?_⟩
    · refine List.pairwise_of_forall_mem_list fun p hp q hq => ?_
      exact Nat.le_of_eq (by rw [rank, rank, stage_of_mem hp, stage_of_mem hq])
    · have hstages : Stage.all.Pairwise fun s s' => s.index ≤ s'.index := by decide
      refine hstages.imp fun hle p hp q hq => ?_
      rw [rank, rank, stage_of_mem hp, stage_of_mem hq]
      exact hle
  · intro k
    by_cases hk : ∃ s : Stage, s.index = k
    · obtain ⟨s, rfl⟩ := hk
      rw [filter_rank, filter_rank, ofStage_byStage]
    · have hnone : ∀ qs : List Pass, qs.filter (·.rank = k) = [] := fun qs =>
        List.filter_eq_nil_iff.2 fun q _ hq => hk ⟨q.stage, of_decide_eq_true hq⟩
      rw [hnone, hnone]

end Pass

namespace Pipeline

/-- **Passes are kept in stable order.** -/
theorem stableBy_addPasses (ps : List Pass) : StableBy Pass.rank ps (empty.addPasses ps).passes :=
  passes_addPasses ps ▸ Pass.stableBy_byStage ps

theorem ofStage_addPasses (s : Stage) (ps : List Pass) :
    Pass.ofStage s (empty.addPasses ps).passes = Pass.ofStage s ps := by
  rw [passes_addPasses, Pass.ofStage_byStage]

/-- One more pass is put in its place as sorting all passes again would do it. -/
theorem passes_addPass (ps : List Pass) (p : Pass) :
    ((empty.addPasses ps).addPass p).passes =
      ((empty.addPasses ps).passes ++ [p]).mergeSort (keyLe Pass.rank) := by
  rw [← addPasses_concat, ← stableBy_iff]
  refine ⟨(stableBy_addPasses (ps ++ [p])).ascends, fun k => ?_⟩
  rw [(stableBy_addPasses (ps ++ [p])).stable, List.filter_append, List.filter_append,
    (stableBy_addPasses ps).stable]

/-- **Pipelines are the same** if they have the same passes in each stage, in the same order. -/
theorem addPasses_eq_iff (ps qs : List Pass) :
    empty.addPasses ps = empty.addPasses qs ↔ ∀ s, Pass.ofStage s ps = Pass.ofStage s qs := by
  constructor
  · intro h s
    rw [← ofStage_addPasses s ps, h, ofStage_addPasses]
  · intro h
    have hsame : Pass.byStage ps = Pass.byStage qs := by
      simp only [Pass.byStage, h]
    exact congrArg Pipeline.mk ((passes_addPasses ps).trans (hsame.trans (passes_addPasses qs).symm))

theorem standard_addPasses (registry : ReplacerRegistry) (ps : List Pass) :
    (standard registry).addPasses ps = empty.addPasses (Pass.standard registry ++ ps) := by
  rw [standard_eq, addPasses, addPasses, addPasses, List.foldl_append]

/-- **Passes in their places.** What a pipeline holds after any passes were added is one stable sort of
these by stage, and so each further pass is put where sorting again would put it: the stages ascend, no
pass is lost or added, and the passes of each stage stand in the order in which they were added. Pipelines
are the same exactly if they were given the same passes in each stage, in the same order. A pass `p` that
is added to those that every rendering runs comes behind the one of its stage and the passes of its stage
that were added before it, and in front of all passes of later stages. -/
theorem passes_in_place (registry : ReplacerRegistry) (ps qs front back : List Pass) (p : Pass) :
    ((empty.addPasses ps).passes = ps.mergeSort (fun a b => a.stage.index ≤ b.stage.index) ∧
      ((empty.addPasses ps).addPass p).passes =
        ((empty.addPasses ps).passes ++ [p]).mergeSort (fun a b => a.stage.index ≤ b.stage.index) ∧
      (empty.addPasses ps).passes.Pairwise (·.stage.index ≤ ·.stage.index) ∧
      (empty.addPasses ps).passes.Perm ps ∧
      ∀ s, Pass.ofStage s (empty.addPasses ps).passes = Pass.ofStage s ps) ∧
    (empty.addPasses ps = empty.addPasses qs ↔ ∀ s, Pass.ofStage s ps = Pass.ofStage s qs) ∧
    ∃ early late,
      ((standard registry).addPasses (front ++ p :: back)).passes = early ++ p :: late ∧
      Pass.ofStage p.stage early = Pass.builtin registry p.stage :: Pass.ofStage p.stage front ∧
      Pass.ofStage p.stage late = Pass.ofStage p.stage back ∧
      (∀ q ∈ early, q.stage.index ≤ p.stage.index) ∧
      ∀ q ∈ late, p.stage.index ≤ q.stage.index := by
  have hps := stableBy_addPasses ps
  refine ⟨⟨stableBy_iff.1 hps, passes_addPass ps p, hps.ascends, hps.perm,
    fun s => ofStage_addPasses s ps⟩, addPasses_eq_iff ps qs, ?_⟩
  have hall := stableBy_addPasses (Pass.standard registry ++ front ++ p :: back)
  obtain ⟨early, late, hsplit, hearly, hlate, hbefore, hbehind⟩ := hall.exists_split
  refine ⟨early, late, ?_, ?_, ?_, hbefore, hbehind⟩
  · rw [standard_addPasses, ← List.append_assoc, hsplit]
  · rw [← Pass.filter_rank]
    refine hearly.trans ?_
    rw [show p.rank = p.stage.index from rfl, Pass.filter_rank, Pass.ofStage_append,
      Pass.ofStage_standard]
    rfl
  · rw [← Pass.filter_rank]
    exact hlate.trans (Pass.filter_rank p.stage back)

end Pipeline

end Multidialect
