import Multidialect.Pipeline.Basic

/-! # Runs of a pipeline

Without plugins a pipeline does nothing but its passes, each on the draft that the one before it
left (`Pipeline.run_nil`). So a run that ends well keeps what each pass keeps
(`Pipeline.run_keeps`), and has what its last pass makes sure of (`Pipeline.exists_run_last`).
-/

namespace Multidialect

variable {σ : Type}

namespace Action

theorem exists_eq_ok {result : σ × Except RenderError Unit} (h : result.2.toOption.isSome = true) :
    ∃ s, result = (s, .ok ()) := by
  obtain ⟨s, result⟩ := result
  cases result with
  | error e => cases h
  | ok u => exact ⟨s, rfl⟩

theorem andThen_eq_ok {a b : Action σ} {s s' : σ} :
    a.andThen b s = (s', .ok ()) ↔ ∃ s₁, a s = (s₁, .ok ()) ∧ b s₁ = (s', .ok ()) := by
  unfold andThen
  split
  · rename_i s₁ h
    simp [h]
  · rename_i s₁ e h
    simp [h]

theorem andThen_eq_error {a b : Action σ} {s s' : σ} {e : RenderError} :
    a.andThen b s = (s', .error e) ↔
      a s = (s', .error e) ∨ ∃ s₁, a s = (s₁, .ok ()) ∧ b s₁ = (s', .error e) := by
  unfold andThen
  split
  · rename_i s₁ h
    simp [h]
  · rename_i s₁ e' h
    simp [h]

theorem inOrder_append_eq_ok {as bs : List (Action σ)} {s s' : σ} :
    inOrder (as ++ bs) s = (s', .ok ()) ↔
      ∃ s₁, inOrder as s = (s₁, .ok ()) ∧ inOrder bs s₁ = (s', .ok ()) := by
  induction as generalizing s with
  | nil => simp [inOrder]
  | cons a as ih =>
    simp only [List.cons_append, inOrder, andThen_eq_ok, ih]
    constructor
    · rintro ⟨s₁, ha, s₂, has, hbs⟩
      exact ⟨s₂, ⟨s₁, ha, has⟩, hbs⟩
    · rintro ⟨s₂, ⟨s₁, ha, has⟩, hbs⟩
      exact ⟨s₁, ha, s₂, has, hbs⟩

/-- What each of some actions keeps, all of them keep one after another. -/
theorem inOrder_keeps {I : σ → Prop} {as : List (Action σ)}
    (h : ∀ a ∈ as, ∀ s s', I s → a s = (s', .ok ()) → I s') {s s' : σ} (hs : I s)
    (hrun : inOrder as s = (s', .ok ())) : I s' := by
  induction as generalizing s with
  | nil =>
    obtain ⟨rfl, -⟩ := Prod.mk.inj hrun
    exact hs
  | cons a as ih =>
    obtain ⟨s₁, ha, has⟩ := andThen_eq_ok.1 hrun
    have hs₁ : I s₁ := h a (.head _) s s₁ hs ha
    exact ih (fun b hb => h b (.tail _ hb)) hs₁ has

end Action

/-- A pass that changes the text ends well with the changed text. -/
theorem Pass.ofText_eq_ok {name description : String} {stage : Stage}
    {change : RenderContext → Text → Except Fault Text} {c : RenderContext} {d d' : Draft}
    (h : (ofText name description stage change).run c d = (d', .ok ())) :
    change c d.text = .ok d'.text := by
  simp only [ofText] at h
  split at h
  · rename_i t ht
    obtain ⟨rfl, -⟩ := Prod.mk.inj h
    exact ht
  · cases (Prod.mk.inj h).2

/-- A pass that changes the text fails where the change does. -/
theorem Pass.ofText_eq_error {name description : String} {stage : Stage}
    {change : RenderContext → Text → Except Fault Text} {c : RenderContext} {d d' : Draft} {f : Fault}
    (h : (ofText name description stage change).run c d = (d', .error (.fault f))) :
    change c d.text = .error f := by
  simp only [ofText] at h
  split at h
  · cases (Prod.mk.inj h).2
  · rename_i f' hf
    obtain ⟨-, hsame⟩ := Prod.mk.inj h
    rw [hf, RenderError.fault.inj (Except.error.inj hsame)]

namespace Pipeline

theorem attend_eq (p : Pass) (c : RenderContext) (draft : Draft) (kept : σ) :
    attend p c ⟨draft, kept⟩ = (⟨(p.run c draft).1, kept⟩, (p.run c draft).2) := rfl

theorem inOrder_attend (ps : List Pass) (c : RenderContext) (draft : Draft) (kept : σ) :
    Action.inOrder (ps.map (attend · c)) ⟨draft, kept⟩ =
      (⟨(Action.inOrder (ps.map (·.run c)) draft).1, kept⟩,
        (Action.inOrder (ps.map (·.run c)) draft).2) := by
  induction ps generalizing draft with
  | nil => rfl
  | cons p ps ih =>
    simp only [List.map_cons, Action.inOrder, Action.andThen, attend_eq]
    generalize p.run c draft = r
    obtain ⟨draft', result⟩ := r
    cases result with
    | error e => rfl
    | ok u => exact ih draft'

/-- Without plugins nothing is done but the passes, and what is kept stays. -/
theorem run_nil (pipeline : Pipeline) (c : RenderContext) (draft : Draft) (kept : σ) :
    pipeline.run [] c ⟨draft, kept⟩ =
      (⟨(Action.inOrder (pipeline.passes.map (·.run c)) draft).1, kept⟩,
        (Action.inOrder (pipeline.passes.map (·.run c)) draft).2) := by
  have hactions : pipeline.actions ([] : List (Plugin σ)) c = pipeline.passes.map (attend · c) := by
    rw [actions, ← List.flatMap_singleton' (pipeline.passes.map (attend · c)), List.flatMap_map]
    rfl
  rw [run, hactions, inOrder_attend]

variable {pipeline : Pipeline} {c : RenderContext} {draft : Draft} {kept : σ} {s : Attended σ}

theorem inOrder_of_run (h : pipeline.run [] c ⟨draft, kept⟩ = (s, .ok ())) :
    Action.inOrder (pipeline.passes.map (·.run c)) draft = (s.draft, .ok ()) := by
  rw [run_nil] at h
  obtain ⟨hs, hok⟩ := Prod.mk.inj h
  rw [← hs, ← hok]

/-- A run that ends well keeps what each of its passes keeps. -/
theorem run_keeps {I : Draft → Prop}
    (hpass : ∀ p ∈ pipeline.passes, ∀ d d', I d → p.run c d = (d', .ok ()) → I d')
    (hdraft : I draft) (h : pipeline.run [] c ⟨draft, kept⟩ = (s, .ok ())) : I s.draft := by
  refine Action.inOrder_keeps (fun a ha => ?_) hdraft (inOrder_of_run h)
  obtain ⟨p, hp, rfl⟩ := List.mem_map.1 ha
  exact hpass p hp

/-- A run that ends well leaves what its last pass leaves. -/
theorem exists_run_last {front : List Pass} {p : Pass} (hlast : pipeline.passes = front ++ [p])
    (h : pipeline.run [] c ⟨draft, kept⟩ = (s, .ok ())) :
    ∃ d, p.run c d = (s.draft, .ok ()) := by
  have hrun := inOrder_of_run h
  rw [hlast, List.map_append, Action.inOrder_append_eq_ok] at hrun
  obtain ⟨d, -, hd⟩ := hrun
  obtain ⟨d', hp, hnil⟩ := Action.andThen_eq_ok.1 hd
  obtain ⟨rfl, -⟩ := Prod.mk.inj hnil
  exact ⟨d, hp⟩

end Pipeline

end Multidialect
