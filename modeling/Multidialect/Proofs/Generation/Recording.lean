import Multidialect.Generation.Generate
import Multidialect.Proofs.Files.Change
import Multidialect.Proofs.Pipeline.Numbering

/-! # Recorded runs

A snapshot that is taken changes no file of an earlier one (`Recorder.Sound.get?_take`), as its path is
another one. So snapshots that are taken one after another are kept apart (`Recorder.apart_of_nil`): they
are numbered among those of their pair, and every one that could be written is there at the end. Whatever
pipelines run one after another, and whatever other plugins look on, a record that a plugin keeps is what
comes of taking snapshots (`Rendering.exists_takeAll`). A run of the generator is nothing but such
pipelines, one for each pair that is neither gated nor of the reference
(`Generator.exists_renderings`).
-/

namespace Multidialect

open Path (IsName)

variable {σ : Type} {out : Option Path} {dir : Path}

/-! ## Taking snapshots -/

namespace Recorder

variable {r : Recorder} {s : PassSnapshot} {e e' : Nat × PassSnapshot} {base : Location}

/-- A record with one more snapshot, which is written if there is a directory for it, and what comes of
that. -/
def take (out : Option Path) (r : Recorder) (s : PassSnapshot) : Recorder × Except FileError Unit :=
  match out with
  | none => (⟨r.log.capture s, r.tree⟩, .ok ())
  | some dir =>
    match r.tree.put (dir.join (s.relativePath (r.log.nextOrdinal s))) s.json.render with
    | (tree, result) => (⟨r.log.capture s, tree⟩, result)

/-- A record with more snapshots. -/
def takeAll (out : Option Path) (r : Recorder) (ss : List PassSnapshot) : Recorder :=
  ss.foldl (fun r s => (r.take out s).1) r

theorem takeAll_append (r : Recorder) (ss more : List PassSnapshot) :
    r.takeAll out (ss ++ more) = (r.takeAll out ss).takeAll out more := List.foldl_append

theorem log_take (r : Recorder) (s : PassSnapshot) : (r.take out s).1.log = r.log.capture s := by
  cases out <;> rfl

theorem log_takeAll (r : Recorder) (ss : List PassSnapshot) :
    (r.takeAll out ss).log = r.log.captureAll ss := by
  induction ss generalizing r with
  | nil => rfl
  | cons s ss ih =>
    rw [takeAll, List.foldl_cons, ← takeAll, ih, log_take]
    rfl

/-- Where the file of a snapshot is. -/
def place (dir : Path) (base : Location) (e : Nat × PassSnapshot) : Location :=
  (dir.join (e.2.relativePath e.1)).resolve base

theorem place_eq (h : e.2.Named) :
    place dir base e = dir.resolve base ++ [e.2.dialect, e.2.template, e.2.fileName e.1] := by
  rw [place, Path.resolve_join, Path.resolve, PassSnapshot.steps_relativePath h]
  simp [FileTree.step]

theorem steps_of_place (he : e.2.Named) (he' : e'.2.Named) (h : place dir base e = place dir base e') :
    (e.2.relativePath e.1).steps = (e'.2.relativePath e'.1).steps := by
  rw [place_eq he, place_eq he', List.append_cancel_left_eq] at h
  simp only [List.cons.injEq, and_true] at h
  obtain ⟨hdialect, htemplate, hfile⟩ := h
  rw [PassSnapshot.steps_relativePath he, PassSnapshot.steps_relativePath he', hdialect, htemplate,
    hfile]

/-- A record whose snapshots are numbered and have names for files and directories. -/
structure Sound (r : Recorder) : Prop where
  wellFormed : r.tree.WellFormed
  numbered : r.log.Numbered
  named : ∀ e ∈ r.log, e.2.Named

/-- **A snapshot that is taken** changes the file at its place and no other one. -/
theorem change_take (dir : Path) (ht : r.tree.WellFormed) (hs : s.Named) :
    FileTree.Change (· = place dir r.tree.current (r.log.nextOrdinal s, s)) (fun _ => True) r.tree
      (r.take (some dir) s).1.tree := by
  have hsteps : (dir.join (s.relativePath (r.log.nextOrdinal s))).steps ≠ [] := by
    have hrelative : (s.relativePath (r.log.nextOrdinal s)).isAbsolute = false := by
      rw [Bool.eq_false_iff, ne_eq, Path.isAbsolute_iff_head, PassSnapshot.steps_relativePath hs]
      simp
    rw [Path.steps_join dir hrelative, PassSnapshot.steps_relativePath hs]
    simp
  have hchange := FileTree.change_putBytes_only ht hsteps s.json.render.toUTF8
  rw [← FileTree.put] at hchange
  exact hchange

theorem Sound.take (h : r.Sound) (dir : Path) (hs : s.Named) : (r.take (some dir) s).1.Sound :=
  ⟨(change_take dir h.wellFormed hs).wellFormed, h.numbered.capture s,
    List.forall_mem_append.2 ⟨h.named, List.forall_mem_singleton.2 hs⟩⟩

/-- A snapshot that could be written is at its place. -/
theorem get?_of_take (ht : r.tree.WellFormed) (h : (r.take (some dir) s).2 = .ok ()) :
    (r.take (some dir) s).1.tree.get? (place dir r.tree.current (r.log.nextOrdinal s, s)) =
      some (.file s.json.render.toUTF8) := by
  refine FileTree.get?_putBytes ht (Prod.ext ?_ ?_)
  · rw [← FileTree.put]
    rfl
  · rw [← FileTree.put]
    exact h

/-- **The file of an earlier snapshot** stays what it is. -/
theorem Sound.get?_take (h : r.Sound) (hs : s.Named) (he : e ∈ r.log) {content : ByteArray}
    (hfile : r.tree.get? (place dir r.tree.current e) = some (.file content)) :
    (r.take (some dir) s).1.tree.get? (place dir r.tree.current e) = some (.file content) := by
  refine (change_take dir h.wellFormed hs).get?_file (fun hplace => ?_) hfile
  exact h.numbered.nextOrdinal_apart h.named hs he (steps_of_place (h.named e he) hs hplace).symm

theorem Sound.takeAll (h : r.Sound) (dir : Path) {ss : List PassSnapshot} (hss : ∀ s ∈ ss, s.Named) :
    (r.takeAll (some dir) ss).Sound ∧ (r.takeAll (some dir) ss).tree.current = r.tree.current ∧
      ∀ e ∈ r.log, ∀ content, r.tree.get? (place dir r.tree.current e) = some (.file content) →
        (r.takeAll (some dir) ss).tree.get? (place dir r.tree.current e) = some (.file content) := by
  induction ss generalizing r with
  | nil => exact ⟨h, rfl, fun _ _ _ hfile => hfile⟩
  | cons s ss ih =>
    have hs : s.Named := hss s (.head _)
    have hcurrent := (change_take dir h.wellFormed hs).current
    obtain ⟨hsound, hrest, hkeeps⟩ := ih (h.take dir hs) fun x hx => hss x (.tail _ hx)
    rw [hcurrent] at hrest hkeeps
    refine ⟨hsound, hrest, fun e he content hfile => ?_⟩
    exact hkeeps e (List.mem_append_left _ he) content (h.get?_take hs he hfile)

/-- **A snapshot that could be written** is at its place whatever is taken later. -/
theorem Sound.get?_takeAll (h : r.Sound) {front back : List PassSnapshot}
    (hss : ∀ x ∈ front ++ s :: back, x.Named)
    (hok : ((r.takeAll (some dir) front).take (some dir) s).2 = .ok ()) :
    (r.takeAll (some dir) (front ++ s :: back)).tree.get?
        (place dir r.tree.current ((r.takeAll (some dir) front).log.nextOrdinal s, s)) =
      some (.file s.json.render.toUTF8) := by
  obtain ⟨hfront, hs, hback⟩ : (∀ x ∈ front, x.Named) ∧ s.Named ∧ ∀ x ∈ back, x.Named := by
    simpa [or_imp, forall_and] using hss
  obtain ⟨hsound, hcurrent, -⟩ := h.takeAll dir hfront
  obtain ⟨-, -, hkeeps⟩ := (hsound.take dir hs).takeAll dir hback
  have hwritten := get?_of_take hsound.wellFormed hok
  rw [(change_take dir hsound.wellFormed hs).current, hcurrent] at hkeeps
  rw [hcurrent] at hwritten
  rw [takeAll_append]
  exact hkeeps _ (List.mem_append_right _ (List.mem_singleton.2 rfl)) _ hwritten

/-- What there is of snapshots that were taken one after another: each of them, numbered among those of
its pair, under a path of its own, and, if it could be written, still in its file. -/
structure Apart (out : Option Path) (start : Recorder) (ss : List PassSnapshot) : Prop where
  snapshots : (start.takeAll out ss).log.map Prod.snd = ss
  numbered : (start.takeAll out ss).log.Numbered
  ordinals : (start.takeAll out ss).log.Pairwise fun e e' => e.2.samePair e'.2 = true → e.1 ≠ e'.1
  paths : (∀ s ∈ ss, s.Named) → (start.takeAll out ss).log.Pairwise fun e e' =>
    (e.2.relativePath e.1).steps ≠ (e'.2.relativePath e'.1).steps
  files : (∀ s ∈ ss, s.Named) → start.tree.WellFormed → ∀ dir, out = some dir →
    ∀ front s back, ss = front ++ s :: back → ((start.takeAll out front).take out s).2 = .ok () →
      (start.takeAll out ss).tree.get?
          (place dir start.tree.current ((start.takeAll out front).log.nextOrdinal s, s)) =
        some (.file s.json.render.toUTF8)

/-- **Snapshots are kept apart**, whatever they are of and in whatever order they are taken. -/
theorem apart_of_nil {start : Recorder} (hlog : start.log = []) (ss : List PassSnapshot) :
    start.Apart out ss := by
  have hcaptured : (start.takeAll out ss).log = SnapshotLog.captureAll [] ss := by
    rw [log_takeAll, hlog]
  have hsnapshots : (start.takeAll out ss).log.map Prod.snd = ss := by
    rw [hcaptured, SnapshotLog.map_snd_captureAll]
    rfl
  have hnumbered : (start.takeAll out ss).log.Numbered := by
    rw [hcaptured]
    exact SnapshotLog.numbered_nil.captureAll ss
  constructor
  case snapshots => exact hsnapshots
  case numbered => exact hnumbered
  case ordinals => exact hnumbered.pairwise_lt.imp fun hlt hsame => Nat.ne_of_lt (hlt hsame)
  case paths =>
    refine fun hss => hnumbered.steps_apart fun e he => hss e.2 ?_
    rw [← hsnapshots]
    exact List.mem_map_of_mem he
  case files =>
    rintro hss hwf dir rfl front s back rfl hok
    have hsound : start.Sound := ⟨hwf, hlog ▸ SnapshotLog.numbered_nil, by simp [hlog]⟩
    exact hsound.get?_takeAll hss hok

end Recorder

/-! ## Plugins that record -/

/-- An action that does nothing to a record but take snapshots of a kind, or none. -/
def Action.Takes (view : σ → Recorder) (out : Option Path) (kind : PassSnapshot → Prop)
    (a : Action (Attended σ)) : Prop :=
  ∀ s, ∃ ss, (∀ x ∈ ss, kind x) ∧ view (a s).1.kept = (view s.kept).takeAll out ss

variable {view : σ → Recorder} {kind : PassSnapshot → Prop}

namespace Plugin

/-- An onlooker that takes a snapshot after every pass and does nothing else to its record. -/
structure Captures (view : σ → Recorder) (out : Option Path) (plugin : Plugin σ) : Prop where
  before : ∀ pass c s, view (plugin.before pass c s).1.kept = view s.kept
  after : ∀ pass c s, view (plugin.after pass c s).1.kept =
    ((view s.kept).take out (.ofDraft pass c s.draft)).1

/-- A plugin that leaves a record alone. -/
structure Spares (view : σ → Recorder) (plugin : Plugin σ) : Prop where
  before : ∀ pass c s, view (plugin.before pass c s).1.kept = view s.kept
  after : ∀ pass c s, view (plugin.after pass c s).1.kept = view s.kept

theorem captures_writing (dir : Path) : (writing dir).Captures id (some dir) :=
  ⟨fun _ _ _ => rfl, fun _ _ _ => rfl⟩

/-- Without a directory for them snapshots are only kept, beside files that stay what they are. -/
theorem captures_recording {log : σ → SnapshotLog} {setLog : SnapshotLog → σ → σ}
    (h : ∀ entries kept, log (setLog entries kept) = entries) (tree : FileTree) :
    (recording log setLog).Captures (fun kept => ⟨log kept, tree⟩) none := by
  refine ⟨fun _ _ _ => rfl, fun pass c s => ?_⟩
  simp only [recording, Recorder.take, h]

end Plugin

namespace Action

theorem takes_of_eq {a : Action (Attended σ)} (h : ∀ s, view (a s).1.kept = view s.kept) :
    a.Takes view out kind := fun s => ⟨[], by simp, h s⟩

theorem Takes.inOrder {as : List (Action (Attended σ))} (h : ∀ a ∈ as, a.Takes view out kind) :
    (Action.inOrder as).Takes view out kind := by
  induction as with
  | nil => exact fun s => ⟨[], by simp, rfl⟩
  | cons a as ih =>
    intro s
    obtain ⟨ss, hss, hkept⟩ := h a (.head _) s
    rw [Action.inOrder, andThen]
    generalize a s = result at hkept ⊢
    obtain ⟨s₁, _ | _⟩ := result
    · exact ⟨ss, hss, hkept⟩
    · obtain ⟨more, hmore, hrest⟩ := ih (fun b hb => h b (.tail _ hb)) s₁
      refine ⟨ss ++ more, List.forall_mem_append.2 ⟨hss, hmore⟩, ?_⟩
      rw [Recorder.takeAll_append, ← hkept]
      exact hrest

end Action

/-! ## Runs one after another -/

/-- A rendering: the passes, the plugins that look on, the pair, and the draft that it starts with. -/
structure Rendering (σ : Type) where
  pipeline : Pipeline
  plugins : List (Plugin σ)
  context : RenderContext
  draft : Draft

namespace Rendering

/-- What is kept when a rendering is over, however it ends. -/
def keep (x : Rendering σ) (kept : σ) : σ :=
  (x.pipeline.run x.plugins x.context ⟨x.draft, kept⟩).1.kept

/-- What is kept after renderings. -/
def keepAll (xs : List (Rendering σ)) (kept : σ) : σ := xs.foldl (fun kept x => x.keep kept) kept

/-- A snapshot of the text at one of the passes. -/
def Shows (x : Rendering σ) (s : PassSnapshot) : Prop :=
  ∃ p ∈ x.pipeline.passes, ∃ draft, s = .ofDraft p.name x.context draft

/-- A rendering whose pair and passes have names for files and directories. -/
structure Named (x : Rendering σ) : Prop where
  template : IsName x.context.template.name
  pass : ∀ p ∈ x.pipeline.passes, IsName p.name

theorem Named.snapshot {x : Rendering σ} (h : x.Named) {s : PassSnapshot} (hs : x.Shows s) :
    s.Named := by
  obtain ⟨p, hp, draft, rfl⟩ := hs
  exact ⟨h.template, Path.isName_dialect _, h.pass p hp⟩

/-- A rendering at which some of the plugins take snapshots, and the others leave the record alone. -/
def Recorded (view : σ → Recorder) (out : Option Path) (x : Rendering σ) : Prop :=
  ∀ plugin ∈ x.plugins, plugin.Captures view out ∨ plugin.Spares view

theorem takes_run {x : Rendering σ} (h : x.Recorded view out) :
    (x.pipeline.run x.plugins x.context).Takes view out x.Shows := by
  refine Action.Takes.inOrder fun a ha => ?_
  obtain ⟨p, hpass, ha⟩ := List.mem_flatMap.1 ha
  rw [Pipeline.passActions, List.mem_append, List.mem_cons, List.mem_map, List.mem_map] at ha
  rcases ha with ⟨plugin, hm, rfl⟩ | rfl | ⟨plugin, hm, rfl⟩
  · refine Action.takes_of_eq fun s => ?_
    rcases h plugin hm with hp | hp
    · exact hp.before p.name x.context s
    · exact hp.before p.name x.context s
  · exact Action.takes_of_eq fun _ => rfl
  · rcases h plugin hm with hp | hp
    · refine fun s => ⟨[.ofDraft p.name x.context s.draft], ?_, hp.after p.name x.context s⟩
      exact List.forall_mem_singleton.2 ⟨p, hpass, s.draft, rfl⟩
    · exact Action.takes_of_eq (hp.after p.name x.context)

/-- **What renderings do to a record** is to take snapshots of their texts. -/
theorem exists_takeAll {xs : List (Rendering σ)} (h : ∀ x ∈ xs, x.Recorded view out) (kept : σ) :
    ∃ ss, view (keepAll xs kept) = (view kept).takeAll out ss ∧ ∀ s ∈ ss, ∃ x ∈ xs, x.Shows s := by
  induction xs generalizing kept with
  | nil => exact ⟨[], rfl, by simp⟩
  | cons x xs ih =>
    obtain ⟨ss, hss, hkept⟩ := takes_run (h x (.head _)) ⟨x.draft, kept⟩
    obtain ⟨more, hrest, hmore⟩ := ih (fun y hy => h y (.tail _ hy)) (x.keep kept)
    refine ⟨ss ++ more, ?_,
      List.forall_mem_append.2 ⟨fun s hs => ⟨x, .head _, hss s hs⟩, fun s hs => ?_⟩⟩
    · rw [Recorder.takeAll_append, ← hkept]
      exact hrest
    · obtain ⟨y, hy, hshows⟩ := hmore s hs
      exact ⟨y, .tail _ hy, hshows⟩

/-- **Snapshots are numbered and kept apart.** The onlooker, with a directory for snapshots or without,
takes one after every pass and does nothing else to its record. Whatever renderings there are while it
looks on, of whatever pairs, and however each of them ends, a record that starts without snapshots has
those of each pair with the numbers from 1 on, in the order in which they were taken, and no number twice.
If the names are names of files and directories, no two snapshots have the same path, and what was
written of any of them is still at its place when all is done. -/
theorem snapshots_apart :
    (∀ dir, (Plugin.writing dir).Captures id (some dir)) ∧
    (∀ (σ : Type) (log : σ → SnapshotLog) (setLog : SnapshotLog → σ → σ) (tree : FileTree),
      (∀ entries kept, log (setLog entries kept) = entries) →
        (Plugin.recording log setLog).Captures (fun kept => ⟨log kept, tree⟩) none) ∧
    ∀ (σ : Type) (view : σ → Recorder) (out : Option Path) (xs : List (Rendering σ)) (kept : σ),
      (∀ x ∈ xs, x.Recorded view out) → (view kept).log = [] →
        ∃ ss, view (keepAll xs kept) = (view kept).takeAll out ss ∧
          (∀ s ∈ ss, ∃ x ∈ xs, x.Shows s) ∧ ((∀ x ∈ xs, x.Named) → ∀ s ∈ ss, s.Named) ∧
          (view kept).Apart out ss := by
  refine ⟨Plugin.captures_writing, fun σ log setLog tree h => Plugin.captures_recording h tree, ?_⟩
  intro σ view out xs kept hrecorded hlog
  obtain ⟨ss, hkept, hshows⟩ := exists_takeAll hrecorded kept
  refine ⟨ss, hkept, hshows, fun hnamed s hs => ?_, Recorder.apart_of_nil hlog ss⟩
  obtain ⟨x, hx, hs⟩ := hshows s hs
  exact (hnamed x hx).snapshot hs

/-- A rendering by one pass, for the template `count`, with snapshots in the directory `out`. -/
def ofCount (d : Dialect) : Rendering Recorder where
  pipeline := ⟨[⟨"verify", "", .verify, fun _ draft => (draft, .ok ())⟩]⟩
  plugins := [.writing ⟨"out"⟩]
  context := ⟨⟨"count", "count.ts", ⟨"count.ts"⟩, "x"⟩, d.profile, Dialect.pg.profile, .standard⟩
  draft := ⟨['x'], []⟩

/-- Two snapshots of a pair, and one of another pair in between. -/
theorem snapshots_apart_interleaved :
    (∀ x ∈ [Dialect.sqlite, .mysql, .sqlite].map ofCount, x.Named ∧ x.Recorded id (some ⟨"out"⟩)) ∧
    ∃ r, keepAll ([.sqlite, .mysql, .sqlite].map ofCount) ⟨[], .empty⟩ = r ∧
      r.log.map (fun e => (e.2.dialect, e.1)) = [("sqlite", 1), ("mysql", 1), ("sqlite", 2)] ∧
      r.log.Numbered ∧
      r.tree.get? (Recorder.place ⟨"out"⟩ ["work"] (1, ⟨"count", "sqlite", "verify", ['x'], []⟩)) =
        some (.file (PassSnapshot.json ⟨"count", "sqlite", "verify", ['x'], []⟩).render.toUTF8) := by
  have hall : ∀ x ∈ [Dialect.sqlite, .mysql, .sqlite].map ofCount,
      x.Named ∧ x.Recorded id (some ⟨"out"⟩) :=
    List.forall_mem_map.2 fun d _ =>
      ⟨⟨(by decide : IsName "count"), List.forall_mem_singleton.2 (by decide : IsName "verify")⟩,
        List.forall_mem_singleton.2 (.inl (Plugin.captures_writing _))⟩
  have hlog : (keepAll ([.sqlite, .mysql, .sqlite].map ofCount) ⟨[], .empty⟩).log =
      [(1, ⟨"count", "sqlite", "verify", ['x'], []⟩), (1, ⟨"count", "mysql", "verify", ['x'], []⟩),
        (2, ⟨"count", "sqlite", "verify", ['x'], []⟩)] := by decide +kernel
  obtain ⟨ss, hkept, -, hnamed, hapart⟩ :=
    snapshots_apart.2.2 Recorder id (some ⟨"out"⟩) _ ⟨[], .empty⟩ (fun x hx => (hall x hx).2) rfl
  -- an equation, since to unfold `id` here is to run the renderings once more
  replace hkept := (id_eq _).symm.trans hkept
  have hss := hapart.snapshots
  have hnumbered := hapart.numbered
  have hfiles := hapart.files (hnamed fun x hx => (hall x hx).1) (by decide +kernel) _ rfl
  rw [← hkept] at hss hnumbered hfiles
  rw [hlog] at hss
  refine ⟨hall, _, rfl, ?_, hnumbered, hfiles [] _ _ hss.symm (ok_of_toOption (by decide +kernel))⟩
  rw [hlog]
  rfl

end Rendering

namespace Generator

/-- The rendering of a pair of a run. -/
def rendering (g : Generator) (plugins : List (Plugin σ)) (d : Dialect) (t : Template) : Rendering σ where
  pipeline := g.pipeline
  plugins := plugins
  context := ⟨t, g.manifest.profile d, g.manifest.referenceProfile, g.manifest⟩
  draft := .ofTemplate t

theorem kept_renderPair (g : Generator) (plugins : List (Plugin σ)) {d : Dialect} (t : Template)
    (kept : σ) (hd : (g.manifest.profile d).dialect ≠ g.manifest.referenceProfile.dialect) :
    (g.renderPair plugins t (g.manifest.profile d) g.manifest.referenceProfile kept).1 =
      (g.rendering plugins d t).keep kept := by
  rw [renderPair, if_neg hd]
  dsimp only [Rendering.keep, rendering]
  generalize g.pipeline.run plugins _ _ = result
  obtain ⟨s, _ | _⟩ := result
  · rfl
  · rfl

/-- A pair goes through the pipeline, or nothing is kept of it. -/
theorem kept_renderOne (g : Generator) (plugins : List (Plugin σ)) (d : Dialect) (t : Template)
    (kept : σ) :
    (g.renderOne plugins d t kept).1 = kept ∨
      (g.renderOne plugins d t kept).1 = (g.rendering plugins d t).keep kept := by
  have hpair : (g.renderPair plugins t (g.manifest.profile d) g.manifest.referenceProfile kept).1 =
      kept ∨ (g.renderPair plugins t (g.manifest.profile d) g.manifest.referenceProfile kept).1 =
        (g.rendering plugins d t).keep kept := by
    by_cases hd : (g.manifest.profile d).dialect = g.manifest.referenceProfile.dialect
    · rw [renderPair, if_pos hd]
      exact .inl rfl
    · exact .inr (g.kept_renderPair plugins t kept hd)
  unfold renderOne
  split
  · generalize g.renderPair plugins t _ _ kept = result at hpair ⊢
    obtain ⟨kept', _ | _⟩ := result
    · exact hpair
    · exact hpair
  · exact .inl rfl

theorem exists_renderings_of_pairs (g : Generator) (plugins : List (Plugin σ))
    (ps : List (Dialect × Template)) (kept : σ) :
    ∃ xs, (∀ x ∈ xs, ∃ p ∈ ps, x = g.rendering plugins p.1 p.2) ∧
      (g.renderPairs plugins ps kept).1 = Rendering.keepAll xs kept := by
  induction ps generalizing kept with
  | nil => exact ⟨[], by simp, rfl⟩
  | cons p ps ih =>
    obtain ⟨xs, hxs, hkept⟩ := ih (g.renderOne plugins p.1 p.2 kept).1
    have hmem : ∀ x ∈ xs, ∃ q ∈ p :: ps, x = g.rendering plugins q.1 q.2 := fun x hx => by
      obtain ⟨q, hq, hx⟩ := hxs x hx
      exact ⟨q, .tail _ hq, hx⟩
    rcases g.kept_renderOne plugins p.1 p.2 kept with hone | hone
    · exact ⟨xs, hmem, hkept.trans (by rw [hone])⟩
    · refine ⟨g.rendering plugins p.1 p.2 :: xs, ?_, hkept.trans (by rw [hone]; rfl)⟩
      exact List.forall_mem_cons.2 ⟨⟨p, .head _, rfl⟩, hmem⟩

/-- **What a run of a generator keeps** is what is kept after renderings of its pairs. -/
theorem exists_renderings (g : Generator) (plugins : List (Plugin σ)) (ts : List Template)
    (ds : List Dialect) (kept : σ) :
    ∃ xs, (∀ x ∈ xs, ∃ d ∈ ds, ∃ t ∈ ts, x = g.rendering plugins d t) ∧
      (g.renderWith plugins ts ds kept).1 = Rendering.keepAll xs kept := by
  obtain ⟨xs, hxs, hkept⟩ := g.exists_renderings_of_pairs plugins (pairsOf ds ts) kept
  refine ⟨xs, fun x hx => ?_, hkept⟩
  obtain ⟨p, hp, rfl⟩ := hxs x hx
  obtain ⟨d, hd, hp⟩ := List.mem_flatMap.1 hp
  obtain ⟨t, ht, rfl⟩ := List.mem_map.1 hp
  exact ⟨d, hd, t, ht, rfl⟩

end Generator

end Multidialect
