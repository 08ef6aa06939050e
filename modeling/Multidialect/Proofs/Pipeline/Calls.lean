import Multidialect.Pipeline.Snapshot
import Mathlib.Data.List.Basic

/-! # What a run calls

A run calls every plugin before and after every pass, in a fixed order, and ends with the first call
that fails (`Action.Runs`, `Pipeline.exists_runs`). The onlooker that takes snapshots is one more
plugin in that order. It fails at nothing and changes no draft, so a run goes on without it as it does
with it (`Pipeline.inOrder_attached`), and its log holds what it saw (`Pipeline.log_of_runs`).
-/

namespace Multidialect

variable {σ κ : Type}

namespace Action

/-- The calls that are made of those in a list, each with the state that it finds, and how they end:
with the last one, or with the first that fails. -/
inductive Runs (act : κ → Action σ) :
    List κ → σ → List (κ × σ) → σ × Except RenderError Unit → Prop
  | done (s : σ) : Runs act [] s [] (s, .ok ())
  | failed {k : κ} {ks : List κ} {s s' : σ} {e : RenderError} (h : act k s = (s', .error e)) :
      Runs act (k :: ks) s [(k, s)] (s', .error e)
  | next {k : κ} {ks : List κ} {s s₁ : σ} {made : List (κ × σ)}
      {result : σ × Except RenderError Unit} (h : act k s = (s₁, .ok ()))
      (rest : Runs act ks s₁ made result) : Runs act (k :: ks) s ((k, s) :: made) result

variable {act : κ → Action σ} {ks : List κ} {s : σ} {made : List (κ × σ)}
  {result : σ × Except RenderError Unit}

theorem exists_runs (act : κ → Action σ) (ks : List κ) (s : σ) :
    ∃ made, Runs act ks s made (inOrder (ks.map act) s) := by
  induction ks generalizing s with
  | nil => exact ⟨[], .done s⟩
  | cons k ks ih =>
    simp only [List.map_cons, inOrder, andThen]
    cases hk : act k s with
    | mk s₁ r =>
      cases r with
      | error e => exact ⟨_, .failed hk⟩
      | ok u =>
        obtain ⟨made, h⟩ := ih s₁
        exact ⟨_, .next hk h⟩

/-- The calls are made in their order. -/
theorem Runs.made_prefix (h : Runs act ks s made result) : made.map Prod.fst <+: ks := by
  induction h with
  | done s => exact List.prefix_rfl
  | failed h => simp
  | next h _ ih => simpa using ih

theorem Runs.made_eq (h : Runs act ks s made result) (hok : result.2 = .ok ()) :
    made.map Prod.fst = ks := by
  induction h with
  | done s => rfl
  | failed h => cases hok
  | next h _ ih => simp [ih hok]

end Action

open Action

/-- When something is called for a pass: a plugin, given by its place, before or after it, or the pass
itself. -/
inductive Moment where
  | before (place : Nat)
  | during
  | after (place : Nat)
  deriving DecidableEq

namespace Pipeline

/-- The moments of one pass, where there are `n` plugins. -/
def moments (n : Nat) : List Moment :=
  (List.range n).map .before ++ .during :: (List.range n).map .after

/-- All calls of a run with `n` plugins. -/
def calls (pipeline : Pipeline) (n : Nat) : List (Pass × Moment) :=
  pipeline.passes.flatMap fun p => (moments n).map (p, ·)

/-- What a call does. -/
def perform (plugins : List (Plugin σ)) (c : RenderContext) :
    Pass × Moment → Action (Attended σ)
  | (p, .before i) => fun s => (plugins[i]?).elim (s, .ok ()) fun plugin => plugin.before p.name c s
  | (p, .during) => fun s => (⟨(p.run c s.draft).1, s.kept⟩, (p.run c s.draft).2)
  | (p, .after i) => fun s => (plugins[i]?).elim (s, .ok ()) fun plugin => plugin.after p.name c s

theorem map_range_getElem? {α β : Type} (as : List α) (f : α → β) (b : β) :
    (List.range as.length).map (fun i => (as[i]?).elim b f) = as.map f := by
  apply List.ext_getElem
  · simp
  · intro i h₁ h₂
    have hi : i < as.length := by simpa using h₁
    simp [hi]

theorem perform_during (plugins : List (Plugin σ)) (c : RenderContext) (p : Pass) :
    perform plugins c (p, .during) = attend p c := rfl

theorem map_perform_moments (plugins : List (Plugin σ)) (c : RenderContext) (p : Pass) :
    (moments plugins.length).map (fun m => perform plugins c (p, m)) = passActions plugins c p := by
  have hbefore := map_range_getElem? plugins (·.before p.name c) fun s => (s, .ok ())
  have hafter := map_range_getElem? plugins (·.after p.name c) fun s => (s, .ok ())
  have helim : ∀ (o : Option (Plugin σ)) (hook : Plugin σ → Action (Attended σ)),
      (fun s => o.elim (s, .ok ()) fun plugin => hook plugin s) =
        o.elim (fun s => (s, .ok ())) hook := by
    intro o hook
    cases o <;> rfl
  simp only [moments, passActions, List.map_append, List.map_cons, List.map_map, Function.comp_def,
    perform_during]
  simp only [perform, helim, hbefore, hafter]

theorem map_perform_calls (pipeline : Pipeline) (plugins : List (Plugin σ)) (c : RenderContext) :
    (pipeline.calls plugins.length).map (perform plugins c) = pipeline.actions plugins c := by
  simp only [calls, actions, List.map_flatMap, List.map_map, Function.comp_def, map_perform_moments]

/-- **A run makes its calls in order**, up to the first that fails. -/
theorem exists_runs (pipeline : Pipeline) (plugins : List (Plugin σ)) (c : RenderContext)
    (s : Attended σ) :
    ∃ made, Runs (perform plugins c) (pipeline.calls plugins.length) s made
      (pipeline.run plugins c s) := by
  rw [run, ← map_perform_calls]
  exact Action.exists_runs _ _ s

/-! ## An onlooker that takes snapshots -/

end Pipeline

/-- An action beside which a log is kept that it does not see. -/
def Action.besideLog (a : Action (Attended σ)) : Action (Attended (σ × SnapshotLog)) := fun s =>
  let (s', result) := a ⟨s.draft, s.kept.1⟩
  (⟨s'.draft, s'.kept, s.kept.2⟩, result)

namespace Plugin

/-- A plugin beside which a log is kept that it does not see. -/
def besideLog (plugin : Plugin σ) : Plugin (σ × SnapshotLog) where
  before pass c := (plugin.before pass c).besideLog
  after pass c := (plugin.after pass c).besideLog

/-- The onlooker that keeps the log. -/
def snapshots : Plugin (σ × SnapshotLog) := recording Prod.snd fun log kept => (kept.1, log)

/-- Plugins with the onlooker among them. -/
def withSnapshots (front back : List (Plugin σ)) : List (Plugin (σ × SnapshotLog)) :=
  front.map besideLog ++ snapshots :: back.map besideLog

end Plugin

namespace Pipeline

/-- Actions among which others stand that fail at nothing and look at the log alone. -/
inductive Attached : List (Action (Attended σ)) → List (Action (Attended (σ × SnapshotLog))) → Prop
  | nil : Attached [] []
  | act (a : Action (Attended σ)) {as : List (Action (Attended σ))}
      {as' : List (Action (Attended (σ × SnapshotLog)))} (rest : Attached as as') :
      Attached (a :: as) (a.besideLog :: as')
  | look {a' : Action (Attended (σ × SnapshotLog))} {as : List (Action (Attended σ))}
      {as' : List (Action (Attended (σ × SnapshotLog)))}
      (h : ∀ s, ∃ log, a' s = (⟨s.draft, s.kept.1, log⟩, .ok ())) (rest : Attached as as') :
      Attached as (a' :: as')

variable {as bs : List (Action (Attended σ))}
  {as' bs' : List (Action (Attended (σ × SnapshotLog)))}

theorem Attached.append (ha : Attached as as') (hb : Attached bs bs') :
    Attached (as ++ bs) (as' ++ bs') := by
  induction ha with
  | nil => exact hb
  | act a _ ih => exact .act a ih
  | look h _ ih => exact .look h ih

theorem attached_map (as : List (Action (Attended σ))) :
    Attached as (as.map Action.besideLog) := by
  induction as with
  | nil => exact .nil
  | cons a as ih => exact .act a ih

/-- What looks at the log alone makes no difference. -/
theorem inOrder_attached (h : Attached as as') (draft : Draft) (kept : σ) (log : SnapshotLog) :
    ∃ log', inOrder as' ⟨draft, kept, log⟩ =
      (⟨(inOrder as ⟨draft, kept⟩).1.draft, (inOrder as ⟨draft, kept⟩).1.kept, log'⟩,
        (inOrder as ⟨draft, kept⟩).2) := by
  induction h generalizing draft kept log with
  | nil => exact ⟨log, rfl⟩
  | act a _ ih =>
    simp only [inOrder, andThen, Action.besideLog]
    cases ha : a ⟨draft, kept⟩ with
    | mk s r =>
      cases r with
      | error e => exact ⟨log, rfl⟩
      | ok u => exact ih s.draft s.kept log
  | look hlook _ ih =>
    obtain ⟨log₁, hlook⟩ := hlook ⟨draft, kept, log⟩
    simp only [inOrder, andThen, hlook]
    exact ih draft kept log₁

theorem attached_hooks (front back : List (Plugin σ)) (hook : Plugin σ → Action (Attended σ))
    (a' : Action (Attended (σ × SnapshotLog)))
    (h : ∀ s, ∃ log, a' s = (⟨s.draft, s.kept.1, log⟩, .ok ())) :
    Attached ((front ++ back).map hook)
      (front.map (fun p => (hook p).besideLog) ++ a' :: back.map fun p => (hook p).besideLog) := by
  have hfront := attached_map (front.map hook)
  have hback := attached_map (back.map hook)
  rw [List.map_map] at hfront hback
  rw [List.map_append]
  exact hfront.append (.look h hback)

theorem attached_actions (pipeline : Pipeline) (front back : List (Plugin σ)) (c : RenderContext) :
    Attached (pipeline.actions (front ++ back) c)
      (pipeline.actions (Plugin.withSnapshots front back) c) := by
  unfold actions
  induction pipeline.passes with
  | nil => exact .nil
  | cons p ps ih =>
    have hbefore := attached_hooks front back (·.before p.name c)
      (Plugin.snapshots.before p.name c) fun s => ⟨s.kept.2, rfl⟩
    have hafter := attached_hooks front back (·.after p.name c)
      (Plugin.snapshots.after p.name c) fun s => ⟨_, rfl⟩
    have hpass : Attached (passActions (front ++ back) c p)
        (passActions (Plugin.withSnapshots front back) c p) := by
      simp only [passActions, Plugin.withSnapshots, List.map_append, List.map_cons, List.map_map]
      simp only [List.map_append] at hbefore hafter
      exact hbefore.append (.act (attend p c) hafter)
    rw [List.flatMap_cons, List.flatMap_cons]
    exact hpass.append ih

/-- What the onlooker at a place has to record of some calls: for each of its hooks after a pass, the
pair, the name of the pass, and the text and the remarks that the hook finds. -/
def snapshotsOf (c : RenderContext) (place : Nat) {τ : Type}
    (made : List ((Pass × Moment) × Attended τ)) : List PassSnapshot :=
  made.filterMap fun (call, s) =>
    if call.2 = .after place then
      some { template := c.template.name
             dialect := c.profile.dialect.name
             pass := call.1.name
             text := s.draft.text
             diagnostics := s.draft.diagnostics }
    else none

theorem getElem?_withSnapshots (front back : List (Plugin σ)) :
    (Plugin.withSnapshots front back)[front.length]? = some .snapshots := by
  simp [Plugin.withSnapshots]

theorem getElem?_withSnapshots_of_ne (front back : List (Plugin σ)) {i : Nat}
    (h : i ≠ front.length) :
    ∃ o : Option (Plugin σ), (Plugin.withSnapshots front back)[i]? = o.map Plugin.besideLog := by
  by_cases hi : i < front.length
  · exact ⟨front[i]?, by simp [Plugin.withSnapshots, List.getElem?_append_left, hi]⟩
  · obtain ⟨j, rfl⟩ : ∃ j, i = front.length + (j + 1) := ⟨i - front.length - 1, by omega⟩
    exact ⟨back[j]?, by simp [Plugin.withSnapshots, List.getElem?_append_right]⟩

/-- The log grows with the hook of the onlooker after a pass, and stays with every other call. -/
theorem log_perform (front back : List (Plugin σ)) (c : RenderContext) (call : Pass × Moment)
    (s : Attended (σ × SnapshotLog)) :
    (perform (Plugin.withSnapshots front back) c call s).1.kept.2.map Prod.snd =
      s.kept.2.map Prod.snd ++ snapshotsOf c front.length [(call, s)] := by
  obtain ⟨p, m⟩ := call
  cases m with
  | during => simp [perform, snapshotsOf]
  | before i =>
    by_cases hi : i = front.length
    · subst hi
      simp [perform, getElem?_withSnapshots, snapshotsOf, Plugin.snapshots, Plugin.recording]
    · obtain ⟨o, ho⟩ := getElem?_withSnapshots_of_ne front back hi
      cases o <;> simp [perform, ho, snapshotsOf, Plugin.besideLog, Action.besideLog]
  | after i =>
    by_cases hi : i = front.length
    · subst hi
      simp [perform, getElem?_withSnapshots, snapshotsOf, Plugin.snapshots, Plugin.recording,
        SnapshotLog.capture, PassSnapshot.ofDraft, RenderContext.dialect]
    · obtain ⟨o, ho⟩ := getElem?_withSnapshots_of_ne front back hi
      cases o <;> simp [perform, ho, hi, snapshotsOf, Plugin.besideLog, Action.besideLog]

/-- **The log holds what the onlooker saw.** -/
theorem log_of_runs {front back : List (Plugin σ)} {c : RenderContext}
    {cs : List (Pass × Moment)} {s : Attended (σ × SnapshotLog)}
    {made : List ((Pass × Moment) × Attended (σ × SnapshotLog))}
    {result : Attended (σ × SnapshotLog) × Except RenderError Unit}
    (h : Runs (perform (Plugin.withSnapshots front back) c) cs s made result) :
    result.1.kept.2.map Prod.snd = s.kept.2.map Prod.snd ++ snapshotsOf c front.length made := by
  induction h with
  | done s => simp [snapshotsOf]
  | @failed k ks s s' e h =>
    have hlog := log_perform front back c k s
    rwa [h] at hlog
  | @next k ks s s₁ made result h _ ih =>
    have hlog := log_perform front back c k s
    rw [h] at hlog
    rw [ih, hlog, List.append_assoc]
    simp [snapshotsOf, ← List.filterMap_append]

/-- **How a pipeline runs.** Every plugin is called before and after every pass, in the order of the
passes and of the plugins, up to the first call that fails, whose error is the answer; what is left is
what the calls that were made left. With an onlooker that takes snapshots, at whatever place, the
answer, the draft and what the plugins keep are the same as without, and its snapshots are those of the
drafts that it found after passes. -/
theorem run_makes_calls (pipeline : Pipeline) (c : RenderContext) :
    (∀ (plugins : List (Plugin σ)) (s : Attended σ), ∃ made,
      Runs (perform plugins c) (pipeline.calls plugins.length) s made (pipeline.run plugins c s) ∧
        made.map Prod.fst <+: pipeline.calls plugins.length ∧
        ((pipeline.run plugins c s).2 = .ok () →
          made.map Prod.fst = pipeline.calls plugins.length)) ∧
    ∀ (front back : List (Plugin σ)) (draft : Draft) (kept : σ) (log : SnapshotLog),
      ∃ made s' result,
        pipeline.run (Plugin.withSnapshots front back) c ⟨draft, kept, log⟩ = (s', result) ∧
          Runs (perform (Plugin.withSnapshots front back) c)
            (pipeline.calls (front.length + 1 + back.length)) ⟨draft, kept, log⟩ made (s', result) ∧
          pipeline.run (front ++ back) c ⟨draft, kept⟩ = (⟨s'.draft, s'.kept.1⟩, result) ∧
          s'.kept.2.map Prod.snd = log.map Prod.snd ++ snapshotsOf c front.length made := by
  constructor
  · intro plugins s
    obtain ⟨made, h⟩ := exists_runs pipeline plugins c s
    exact ⟨made, h, h.made_prefix, h.made_eq⟩
  · intro front back draft kept log
    obtain ⟨made, h⟩ := exists_runs pipeline (Plugin.withSnapshots front back) c ⟨draft, kept, log⟩
    obtain ⟨log', hrun⟩ := inOrder_attached (attached_actions pipeline front back c) draft kept log
    have hlength : (Plugin.withSnapshots front back).length = front.length + 1 + back.length := by
      simp only [Plugin.withSnapshots, List.length_append, List.length_cons, List.length_map]
      omega
    rw [hlength] at h
    refine ⟨made, _, _, rfl, h, ?_, log_of_runs h⟩
    simp only [run, hrun]

/-- A plugin adds to the text before every pass, the onlooker stands behind it, and the second pass
fails: what the plugin added before that pass stays, and the onlooker saw the text behind the first
pass alone. -/
theorem run_makes_calls_stopped :
    let asking : Plugin Unit :=
      { before := fun _ _ s => (⟨⟨s.draft.text ++ ['?'], s.draft.diagnostics⟩, ()⟩, .ok ())
        after := fun _ _ s => (s, .ok ()) }
    let marking := Pass.ofText "mark" "Put a mark behind" .replace fun _ t => .ok (t ++ ['!'])
    let refusing := Pass.ofText "refuse" "Take no text" .verify fun _ _ => .error (.emptyTag 1)
    let pipeline : Pipeline := ⟨[marking, refusing]⟩
    let c : RenderContext :=
      ⟨.ofSource "count.ts" "x", Dialect.sqlite.profile, Dialect.pg.profile, .standard⟩
    let seen : PassSnapshot := ⟨"count", "sqlite", "mark", ['x', '?', '!'], []⟩
    let left : Draft := ⟨['x', '?', '!', '?'], []⟩
    ∃ made,
      Runs (perform (Plugin.withSnapshots [asking] []) c) (pipeline.calls 2)
          ⟨⟨['x'], []⟩, (), []⟩ made (⟨left, (), [(1, seen)]⟩, .error (.fault (.emptyTag 1))) ∧
        pipeline.run [asking] c ⟨⟨['x'], []⟩, ()⟩ =
          (⟨left, ()⟩, .error (.fault (.emptyTag 1))) ∧
        snapshotsOf c 1 made = [seen] := by
  intro asking marking refusing pipeline c seen left
  obtain ⟨made, s', result, hrun, hmade, halone, hlog⟩ :=
    (run_makes_calls pipeline c).2 [asking] [] ⟨['x'], []⟩ () []
  have hstopped : pipeline.run (Plugin.withSnapshots [asking] []) c ⟨⟨['x'], []⟩, (), []⟩ =
      (⟨left, (), [(1, seen)]⟩, .error (.fault (.emptyTag 1))) := rfl
  obtain ⟨rfl, rfl⟩ := Prod.mk.inj (hrun.symm.trans hstopped)
  exact ⟨made, hmade, halone, hlog.symm⟩

end Pipeline

end Multidialect
