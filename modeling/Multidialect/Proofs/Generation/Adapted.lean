import Multidialect.Proofs.Generation.Independence
import Multidialect.Proofs.Manifest.Overrides
import Multidialect.Proofs.Pipeline.Filling
import Multidialect.Proofs.Template.RegionKeys

/-! # What overrides can change

Overrides are looked at in one pass only. What a template is before its regions are read
(`Generator.adapted`) is the same whatever the overrides (`Generator.adapted_withSnippets`), so what
comes of a pair is the same for overrides that agree on the regions it comes to
(`Generator.pairResult_withSnippets`), and an override of a region that it comes to can change it
(`Generator.pairResult_stray`).
-/

namespace Multidialect

open Text

theorem Action.inOrder_append {σ : Type} (as bs : List (Action σ)) :
    inOrder (as ++ bs) = (inOrder as).andThen (inOrder bs) := by
  induction as with
  | nil => rfl
  | cons a as ih =>
    funext s
    simp only [List.cons_append, inOrder, ih, andThen]
    generalize a s = r
    obtain ⟨s', result⟩ := r
    cases result <;> rfl

/-- The passes in front of the one that fills the regions. -/
def Pass.adapting (registry : ReplacerRegistry) : List Pass :=
  [.replace registry, .directives, .typeParams, .identifiers]

/-- What comes of a pair, by what the passes leave. -/
def PairResult.ofRun (template : String) : Draft × Except RenderError Unit → PairResult
  | (draft, .ok ()) => .rendered draft.text draft.diagnostics
  | (_, .error e) => .failed (e.message template)

namespace Generator

section

variable (g : Generator) (d : Dialect) (t : Template)

/-- The rendering of a template for a dialect. -/
def context : RenderContext := ⟨t, g.manifest.profile d, g.manifest.referenceProfile, g.manifest⟩

/-- A template in the words of a dialect, before its regions are read. -/
def adapted : Draft × Except RenderError Unit :=
  Action.inOrder ((Pass.adapting g.replacers).map (·.run (g.context d t))) (.ofTemplate t)

/-- The override for a region of a template. -/
def override? (key : String) : Option Text :=
  ((g.manifest.profile d).snippet? t.name key).map String.toList

/-- What comes of a template in the words of a dialect: its regions are filled, and nothing that is
for the generator may be left. -/
def finished (draft : Draft) : PairResult :=
  match Region.parse draft.text with
  | .ok segments =>
    let text := Region.fill (g.override? d t) segments
    match residue? text with
    | some (line, marker) => .failed (Fault.message t.name (.residue d.name (String.ofList marker) line))
    | none => .rendered text draft.diagnostics
  | .error f => .failed (f.message t.name)

end

variable {g : Generator} {d : Dialect} {t : Template}

/-! ## Regions are filled last -/

theorem ofRun_snippets (draft : Draft) :
    PairResult.ofRun t.name (Action.inOrder
      [Pass.snippets.run (g.context d t), Pass.verify.run (g.context d t)] draft) =
      g.finished d t draft := by
  have hdialect : (g.context d t).dialect = d := g.manifest.dialect_profile d
  unfold finished
  cases hparse : Region.parse draft.text with
  | error f =>
    have hfails : Pass.snippets.run (g.context d t) draft = (draft, .error (.fault f)) := by
      simp only [Pass.snippets, Pass.ofText, hparse]
      rfl
    simp only [Action.inOrder, Action.andThen, hfails]
    rfl
  | ok segments =>
    have hfills : Pass.snippets.run (g.context d t) draft =
        ({ draft with text := Region.fill (g.override? d t) segments }, .ok ()) := by
      simp only [Pass.snippets, Pass.ofText, hparse]
      rfl
    simp only [Action.inOrder, Action.andThen, hfills, Pass.verify, Pass.ofText, hdialect]
    cases residue? (Region.fill (g.override? d t) segments) <;> rfl

/-- **What comes of a pair** of a variant: the passes in front of the regions, then the regions. -/
theorem pairResult_eq (hd : d ≠ g.manifest.reference) (ha : g.manifest.allows t.name d = true) :
    g.pairResult d t =
      match g.adapted d t with
      | (draft, .ok ()) => g.finished d t draft
      | (_, .error e) => .failed (e.message t.name) := by
  have hprofile : (g.manifest.profile d).dialect ≠ g.manifest.referenceProfile.dialect := by
    simpa [Manifest.referenceProfile] using hd
  have hpasses : (pipeline g).passes.map (·.run (g.context d t)) =
      (Pass.adapting g.replacers).map (·.run (g.context d t)) ++
        [Pass.snippets.run (g.context d t), Pass.verify.run (g.context d t)] := by
    rw [pipeline, Pipeline.passes_standard]
    rfl
  have hrun : g.pairResult d t = PairResult.ofRun t.name
      (Action.inOrder ((pipeline g).passes.map (·.run (g.context d t))) (.ofTemplate t)) := by
    rw [pairResult_of_allowed g ha, renderPair, if_neg hprofile]
    simp only [Pipeline.run_nil, context]
    generalize Action.inOrder _ (Draft.ofTemplate t) = r
    obtain ⟨draft, result⟩ := r
    cases result <;> rfl
  rw [hrun, hpasses, Action.inOrder_append, Action.andThen, ← adapted]
  generalize g.adapted d t = r
  obtain ⟨draft, result⟩ := r
  cases result with
  | error e => rfl
  | ok u => exact ofRun_snippets draft

/-! ## Other overrides -/

section

variable {m : Manifest} {root : Path} {snippets : Dictionary String}

theorem referenceProfile_withSnippets (hd : d ≠ m.reference) :
    (m.withSnippets d snippets).referenceProfile = m.referenceProfile :=
  Manifest.profile_withSnippets_of_ne (Ne.symm hd)

theorem allows_withSnippets (name : String) :
    (m.withSnippets d snippets).allows name d = m.allows name d := by
  rw [Manifest.allows, Manifest.profile_withSnippets]
  rfl

/-- **Overrides have no say** in what a template is before its regions are read. -/
theorem adapted_withSnippets (hd : d ≠ m.reference) :
    adapted ⟨m.withSnippets d snippets, root⟩ d t = adapted ⟨m, root⟩ d t := by
  have hcontext : context ⟨m.withSnippets d snippets, root⟩ d t =
      { template := t, profile := { m.profile d with snippets := Dictionary.extend [] snippets },
        reference := m.referenceProfile, manifest := m.withSnippets d snippets } := by
    rw [context, Manifest.profile_withSnippets, referenceProfile_withSnippets hd]
  rw [adapted, hcontext]
  rfl

/-- A region that a rendering comes to: the template is offered, its regions are in order, and nothing
in front of the region is refused. -/
structure Reaches (g : Generator) (d : Dialect) (t : Template) (r : Region) : Prop where
  offered : g.manifest.allows t.name d = true
  split : ∃ draft before after, g.adapted d t = (draft, .ok ()) ∧
    Region.parse draft.text = .ok (before ++ .region r :: after) ∧
    residue? (Region.fill (g.override? d t) before) = none

theorem finished_of_agree {g g' : Generator} {draft : Draft}
    (hagree : ∀ before r after, Region.parse draft.text = .ok (before ++ .region r :: after) →
      residue? (Region.fill (g.override? d t) before) = none →
      g'.override? d t r.key = g.override? d t r.key) :
    g'.finished d t draft = g.finished d t draft := by
  unfold finished
  cases hparse : Region.parse draft.text with
  | error f => rfl
  | ok segments =>
    dsimp only
    have hfill := Region.fill_of_agree hparse fun before r after hsplit =>
      hagree before r after (hsplit ▸ hparse)
    rcases hfill with hsame | ⟨x, hx', hx⟩
    · rw [hsame]
    · rw [hx, hx']

/-- **Overrides that agree** on the regions that a rendering comes to give the same. -/
theorem pairResult_withSnippets (hd : d ≠ m.reference)
    (hagree : ∀ r, Reaches ⟨m, root⟩ d t r →
      override? ⟨m.withSnippets d snippets, root⟩ d t r.key = override? ⟨m, root⟩ d t r.key) :
    pairResult ⟨m.withSnippets d snippets, root⟩ d t = pairResult ⟨m, root⟩ d t := by
  cases ha : m.allows t.name d with
  | false =>
    have ha' : (m.withSnippets d snippets).allows t.name d = false := by rw [allows_withSnippets, ha]
    rw [pairResult_of_gated _ ha', pairResult_of_gated _ ha]
  | true =>
    have ha' : (m.withSnippets d snippets).allows t.name d = true := by rw [allows_withSnippets, ha]
    rw [pairResult_eq hd ha', pairResult_eq hd ha, adapted_withSnippets hd]
    cases hadapted : adapted ⟨m, root⟩ d t with
    | mk draft result =>
      cases result with
      | error e => rfl
      | ok u =>
        exact finished_of_agree fun before r after hparse hbefore =>
          hagree r ⟨ha, draft, before, after, hadapted, hparse, hbefore⟩

/-- **An override that is a marker** is what a pair fails for, if the rendering comes to the region. -/
theorem pairResult_stray (hd : d ≠ m.reference) {draft : Draft} {before after : List Segment}
    {r : Region} (ha : m.allows t.name d = true) (hadapted : adapted ⟨m, root⟩ d t = (draft, .ok ()))
    (hparse : Region.parse draft.text = .ok (before ++ .region r :: after))
    (hbefore : residue? (Region.fill (override? ⟨m, root⟩ d t) before) = none)
    (hagree : ∀ r', .region r' ∈ before →
      override? ⟨m.withSnippets d snippets, root⟩ d t r'.key = override? ⟨m, root⟩ d t r'.key)
    {first : Bool}
    (hr : override? ⟨m.withSnippets d snippets, root⟩ d t r.key = some (Region.stray first)) :
    pairResult ⟨m.withSnippets d snippets, root⟩ d t = .failed (Fault.message t.name (.residue d.name
      (String.ofList (Region.stray first))
      (1 + (lines (Region.fill (override? ⟨m, root⟩ d t) before)).length))) := by
  have ha' : (m.withSnippets d snippets).allows t.name d = true := by rw [allows_withSnippets, ha]
  have hfront : Region.fill (override? ⟨m.withSnippets d snippets, root⟩ d t) before =
      Region.fill (override? ⟨m, root⟩ d t) before := by
    refine Region.fill_congr fun key hkey => ?_
    obtain ⟨r', hr', rfl⟩ := Region.mem_regionsOf.1 hkey
    exact hagree r' hr'
  have hfound := Region.residue?_fill_stray hparse (by rw [hfront, hbefore]) hr
  rw [pairResult_eq hd ha', adapted_withSnippets hd, hadapted]
  simp only [finished, hparse, hfound, hfront]

end

end Generator

end Multidialect
