import Multidialect.Proofs.Generation.Enumeration
import Multidialect.Proofs.Generation.Written
import Multidialect.Proofs.Sorting

/-! # Planned files, turn by turn

Planned files are written one after another, and each finds the tree that those before it have left
(`FileRegistry.turns`). What stands in a place at the end is what the last file that was written there
holds (`FileRegistry.Succeeds.fileAt?`), whatever was left alone. That this is what the two rules ask for,
the last file that overwrites, or what was there, or else the first file that goes there, takes that each
file which does not overwrite sees what is in its place (`FileRegistry.writeAll_settles_iff`). It looks
there by its path as it is written, before the way is made.
-/

namespace Multidialect

/-- The content of the file at a location. -/
def FileTree.fileAt? (t : FileTree) (l : Location) : Option ByteArray :=
  match t.get? l with
  | some (.file content) => some content
  | _ => none

theorem FileTree.fileAt?_eq_some {t : FileTree} {l : Location} {content : ByteArray} :
    t.fileAt? l = some content ↔ t.get? l = some (.file content) := by
  unfold fileAt?
  split
  · rename_i content' h
    rw [h, Option.some.injEq, Option.some.injEq, FileEntry.file.injEq]
  · rename_i h
    exact iff_of_false nofun fun hfile => h content hfile

/-- What a planned file holds. -/
def PlannedFile.bytes (f : PlannedFile) : ByteArray := f.content.toUTF8

namespace FileRegistry

variable {base : Path} {f : PlannedFile} {files : List PlannedFile} {t t₁ t' : FileTree} {l : Location}
  {s : WriteStats}

/-! ## Turns -/

/-- Each planned file with the tree that it finds. -/
def turns (base : Path) : List PlannedFile → FileTree → List (PlannedFile × FileTree)
  | [], _ => []
  | f :: rest, t =>
    (f, t) :: turns base rest (if f.isKept base t then t else (t.put (base.join f.path) f.content).1)

/-- The files that are written. -/
def written (base : Path) (files : List PlannedFile) (t : FileTree) : List PlannedFile :=
  ((turns base files t).filter fun turn => !turn.1.isKept base turn.2).map Prod.fst

/-- The files that are left alone. -/
def leftAlone (base : Path) (files : List PlannedFile) (t : FileTree) : List PlannedFile :=
  ((turns base files t).filter fun turn => turn.1.isKept base turn.2).map Prod.fst

/-- What it means that a planned file was put: it is there, and no other file has changed. -/
structure Lands (base : Path) (f : PlannedFile) (t t₁ : FileTree) : Prop where
  put : t.put (base.join f.path) f.content = (t₁, .ok ())
  wellFormed : t₁.WellFormed
  grows : t.Grows t₁
  fileAt? : ∀ l, t₁.fileAt? l = if f.place base t.current = l then some f.bytes else t.fileAt? l

theorem steps_ne_nil_of_putBytes {p : Path} {content : ByteArray}
    (h : t.putBytes p content = (t', .ok ())) : p.steps ≠ [] := by
  intro hp
  have hwrite : ∀ {t₁ : FileTree}, t₁.writeBytes p content ≠ (t', .ok ()) := by
    intro t₁ h
    unfold FileTree.writeBytes at h
    cases hw : t₁.write p content with
    | ok t₂ => exact FileTree.write_ne_ok hp content hw
    | error e =>
      rw [hw] at h
      cases h
  unfold FileTree.putBytes at h
  cases hparent : p.parent? with
  | none =>
    simp only [hparent] at h
    exact hwrite h
  | some parent =>
    simp only [hparent] at h
    cases hmade : FileFault.during .create parent (t.createDirs parent).2 with
    | error e => simp [hmade] at h
    | ok u =>
      rw [hmade] at h
      exact hwrite h

/-- **What a write does**: the file is there, and no other file has changed. -/
theorem lands_of_put (ht : t.WellFormed) (h : t.put (base.join f.path) f.content = (t₁, .ok ())) :
    Lands base f t t₁ := by
  have hput := h
  rw [FileTree.put] at h
  have hgrows := FileTree.grows_putBytes t (base.join f.path) f.content.toUTF8
  have hchange := FileTree.change_putBytes_only ht (steps_ne_nil_of_putBytes h) f.content.toUTF8
  rw [h] at hgrows hchange
  refine ⟨hput, hchange.wellFormed, hgrows, fun l => ?_⟩
  split
  · rename_i hl
    rw [← hl]
    exact FileTree.fileAt?_eq_some.2 (FileTree.get?_putBytes ht h)
  · rename_i hl
    unfold FileTree.fileAt?
    rcases hchange.get? l (Ne.symm hl) with hsame | ⟨-, hnone, hdir⟩
    · rw [hsame]
    · rw [hnone, hdir]

/-- The ways in which planned files are written, with the tree and the counts at the end. -/
inductive Succeeds (base : Path) : List PlannedFile → FileTree → FileTree → WriteStats → Prop
  | nil {t : FileTree} : Succeeds base [] t t .none
  | kept {f : PlannedFile} {files : List PlannedFile} {t t' : FileTree} {s : WriteStats}
      (kept : f.isKept base t = true) (rest : Succeeds base files t t' s) :
      Succeeds base (f :: files) t t' { s with skipped := f.path :: s.skipped }
  | put {f : PlannedFile} {files : List PlannedFile} {t t₁ t' : FileTree} {s : WriteStats}
      (kept : f.isKept base t = false) (lands : Lands base f t t₁) (rest : Succeeds base files t₁ t' s) :
      Succeeds base (f :: files) t t' { s with written := s.written + 1 }

theorem succeeds_of_writeFiles (ht : t.WellFormed) (h : writeFiles base files t = (t', .ok s)) :
    Succeeds base files t t' s := by
  induction files generalizing t s with
  | nil =>
    obtain ⟨rfl, hs⟩ := Prod.mk.inj h
    obtain rfl := Except.ok.inj hs
    exact .nil
  | cons f rest ih =>
    have hmore : ∀ {t₁ : FileTree} {update : WriteStats → WriteStats}, t₁.WellFormed →
        ((writeFiles base rest t₁).1, (writeFiles base rest t₁).2.map update) = (t', .ok s) →
        ∃ s', Succeeds base rest t₁ t' s' ∧ s = update s' := by
      intro t₁ update ht₁ h
      generalize hrest : writeFiles base rest t₁ = result at h
      obtain ⟨t₂, r⟩ := result
      obtain ⟨rfl, hr⟩ := Prod.mk.inj h
      obtain ⟨s', rfl, rfl⟩ := map_eq_ok.1 hr
      exact ⟨s', ih ht₁ hrest, rfl⟩
    simp only [writeFiles] at h
    split at h
    · rename_i hkept
      obtain ⟨s', hs', rfl⟩ := hmore ht h
      exact .kept hkept hs'
    · rename_i hkept
      cases hput : t.put (base.join f.path) f.content with
      | mk t₁ r =>
        rw [hput] at h
        cases r with
        | error e => cases (Prod.mk.inj h).2
        | ok u =>
          have hlands := lands_of_put ht hput
          obtain ⟨s', hs', rfl⟩ := hmore hlands.wellFormed h
          exact .put (by simpa using hkept) hlands hs'

theorem turns_kept (h : f.isKept base t = true) :
    turns base (f :: files) t = (f, t) :: turns base files t := by
  rw [turns, if_pos h]

theorem turns_put (h : f.isKept base t = false) (hlands : Lands base f t t₁) :
    turns base (f :: files) t = (f, t) :: turns base files t₁ := by
  rw [turns, if_neg (by simp [h]), hlands.put]

theorem written_kept (h : f.isKept base t = true) :
    written base (f :: files) t = written base files t := by
  simp [written, turns_kept h, h]

theorem written_put (h : f.isKept base t = false) (hlands : Lands base f t t₁) :
    written base (f :: files) t = f :: written base files t₁ := by
  simp [written, turns_put h hlands, h]

theorem leftAlone_kept (h : f.isKept base t = true) :
    leftAlone base (f :: files) t = f :: leftAlone base files t := by
  simp [leftAlone, turns_kept h, h]

theorem leftAlone_put (h : f.isKept base t = false) (hlands : Lands base f t t₁) :
    leftAlone base (f :: files) t = leftAlone base files t₁ := by
  simp [leftAlone, turns_put h hlands, h]

namespace Succeeds

theorem grows (h : Succeeds base files t t' s) : t.Grows t' := by
  induction h with
  | nil => exact .refl _
  | kept _ _ ih => exact ih
  | put _ hlands _ ih => exact hlands.grows.trans ih

/-- What was left alone is told by name, and all else is counted. -/
theorem stats_eq (h : Succeeds base files t t' s) :
    s = ⟨(written base files t).length, (leftAlone base files t).map PlannedFile.path⟩ := by
  induction h with
  | nil => rfl
  | kept hkept _ ih =>
    rw [written_kept hkept, leftAlone_kept hkept, ih]
    rfl
  | put hkept hlands _ ih =>
    rw [written_put hkept hlands, leftAlone_put hkept hlands, ih]
    rfl

theorem length_eq (h : Succeeds base files t t' s) : s.written + s.skipped.length = files.length := by
  induction h with
  | nil => rfl
  | kept _ _ ih => rw [List.length_cons, List.length_cons, ← ih, Nat.add_assoc]
  | put _ _ _ ih => rw [List.length_cons, ← ih, Nat.add_right_comm]

/-- **What stands in a place at the end**: what the last file holds that was written there, or what was
there. -/
theorem fileAt? (h : Succeeds base files t t' s) (l : Location) :
    t'.fileAt? l = ((lastAt base t.current (written base files t) l).map PlannedFile.bytes).or
      (t.fileAt? l) := by
  induction h with
  | nil => rfl
  | kept hkept _ ih => rw [written_kept hkept, ih]
  | put hkept hlands _ ih =>
    rw [written_put hkept hlands, lastAt_cons, ih, hlands.fileAt?, hlands.grows.current]
    cases lastAt base _ _ l with
    | some f => rfl
    | none => split <;> rfl

/-- Each turn is that of a planned file, and the trees grow from turn to turn. -/
theorem of_mem_turns (h : Succeeds base files t t' s) {turn : PlannedFile × FileTree}
    (hm : turn ∈ turns base files t) : turn.1 ∈ files ∧ t.Grows turn.2 ∧ turn.2.Grows t' := by
  induction h with
  | nil => cases hm
  | kept hkept hrest ih =>
    rw [turns_kept hkept] at hm
    rcases List.mem_cons.1 hm with rfl | hm
    · exact ⟨.head _, .refl _, hrest.grows⟩
    · exact ⟨.tail _ (ih hm).1, (ih hm).2⟩
  | put hkept hlands hrest ih =>
    rw [turns_put hkept hlands] at hm
    rcases List.mem_cons.1 hm with rfl | hm
    · exact ⟨.head _, .refl _, hlands.grows.trans hrest.grows⟩
    · exact ⟨.tail _ (ih hm).1, hlands.grows.trans (ih hm).2.1, (ih hm).2.2⟩

end Succeeds

theorem mem_of_mem_written (h : Succeeds base files t t' s) (hf : f ∈ written base files t) :
    f ∈ files := by
  obtain ⟨turn, hturn, rfl⟩ := List.mem_map.1 hf
  exact (h.of_mem_turns (List.mem_filter.1 hturn).1).1

/-! ## What the rules ask for -/

/-- What the rules ask for in a place: the last file that overwrites what is there, or else what was
there, or else the first file that goes there. -/
def settled (base : Path) (t : FileTree) (files : List PlannedFile) (l : Location) : Option ByteArray :=
  ((lastAt base t.current (files.filter (·.overwrite = .always)) l).map PlannedFile.bytes).or
    ((t.fileAt? l).or ((files.find? (·.place base t.current = l)).map PlannedFile.bytes))

/-- The files that the rules leave alone, behind other ones: those that do not overwrite, and in whose
place there was a file or goes one before them. -/
def spared (base : Path) (t : FileTree) (before : List PlannedFile) : List PlannedFile → List PlannedFile
  | [] => []
  | f :: rest =>
    let place := f.place base t.current
    if f.overwrite = .ifMissing ∧
        ((t.fileAt? place).isSome ∨ ∃ e ∈ before, e.place base t.current = place) then
      f :: spared base t (before ++ [f]) rest
    else spared base t (before ++ [f]) rest

/-- Whether a file finds by its path what is in its place, or is there to overwrite it. -/
def Sees (base : Path) (turn : PlannedFile × FileTree) : Prop :=
  turn.1.overwrite = .ifMissing →
    (turn.2.exists? (base.join turn.1.path) = true ↔
      (turn.2.fileAt? (turn.1.place base turn.2.current)).isSome)

instance (base : Path) (turn : PlannedFile × FileTree) : Decidable (Sees base turn) :=
  inferInstanceAs (Decidable (_ → _))

theorem isKept_iff : f.isKept base t = true ↔
    f.overwrite = .ifMissing ∧ t.exists? (base.join f.path) = true := by
  simp [PlannedFile.isKept]

theorem find?_place_cons {current : Location} :
    (f :: files).find? (·.place base current = l) =
      if f.place base current = l then some f else files.find? (·.place base current = l) := by
  rw [List.find?_cons]
  split
  · rename_i h
    rw [if_pos (of_decide_eq_true h)]
  · rename_i h
    rw [if_neg (of_decide_eq_false h)]

/-- A file that is left alone where one is changes nothing in what the rules ask for. -/
theorem settled_kept (hover : f.overwrite = .ifMissing)
    (hthere : (t.fileAt? (f.place base t.current)).isSome) :
    settled base t (f :: files) l = settled base t files l := by
  have hfilter : (f :: files).filter (·.overwrite = .always) = files.filter (·.overwrite = .always) :=
    List.filter_cons_of_neg (by simp [hover])
  unfold settled
  rw [hfilter, find?_place_cons]
  split
  · rename_i hl
    obtain ⟨content, hcontent⟩ := Option.isSome_iff_exists.1 hthere
    rw [← hl, hcontent, Option.some_or, Option.some_or]
  · rfl

/-- A file that is written, over what was there or where nothing was, leaves to the others what the
rules ask for. -/
theorem settled_put (hlands : Lands base f t t₁)
    (hnone : f.overwrite = .ifMissing → t.fileAt? (f.place base t.current) = none) :
    settled base t (f :: files) l = settled base t₁ files l := by
  unfold settled
  rw [find?_place_cons, hlands.fileAt?, hlands.grows.current]
  cases hover : f.overwrite with
  | always =>
    have hfilter : (f :: files).filter (·.overwrite = .always) =
        f :: files.filter (·.overwrite = .always) := List.filter_cons_of_pos (by simp [hover])
    rw [hfilter, lastAt_cons, Option.map_or, Option.or_assoc]
    by_cases hl : f.place base t.current = l
    · simp [hl]
    · simp [hl]
  | ifMissing =>
    have hfilter : (f :: files).filter (·.overwrite = .always) =
        files.filter (·.overwrite = .always) := List.filter_cons_of_neg (by simp [hover])
    rw [hfilter]
    by_cases hl : f.place base t.current = l
    · simp [← hl, hnone hover]
    · simp [hl]

/-- **What the rules ask for comes about** if each file that does not overwrite sees what is there. -/
theorem Succeeds.settles (h : Succeeds base files t t' s)
    (hsees : ∀ turn ∈ turns base files t, Sees base turn) : t'.fileAt? l = settled base t files l := by
  induction h with
  | nil => simp [settled, lastAt]
  | kept hkept _ ih =>
    rw [turns_kept hkept, List.forall_mem_cons] at hsees
    obtain ⟨hover, hexists⟩ := isKept_iff.1 hkept
    rw [settled_kept hover ((hsees.1 hover).1 hexists), ih hsees.2]
  | put hkept hlands _ ih =>
    rw [turns_put hkept hlands, List.forall_mem_cons] at hsees
    rw [settled_put hlands fun hover => ?_, ih hsees.2]
    rw [← Option.not_isSome_iff_eq_none, ← hsees.1 hover]
    exact fun hexists => Bool.false_ne_true (hkept.symm.trans (isKept_iff.2 ⟨hover, hexists⟩))

/-- The rules ask for something wherever a file goes. -/
theorem isSome_settled (hf : f ∈ files) : (settled base t files (f.place base t.current)).isSome := by
  have hfound : (files.find? (·.place base t.current = f.place base t.current)).isSome :=
    List.find?_isSome.2 ⟨f, hf, by simp⟩
  rw [settled, Option.isSome_or, Option.isSome_or, Option.isSome_map, Option.isSome_map, hfound,
    Bool.or_true, Bool.or_true]

/-! ## Files that are left alone -/

/-- The files of a tree are in the places where there were some before, or where files went since. -/
def Filled (base : Path) (t₀ : FileTree) (before : List PlannedFile) (t : FileTree) : Prop :=
  ∀ l, (t.fileAt? l).isSome ↔ (t₀.fileAt? l).isSome ∨ ∃ e ∈ before, e.place base t₀.current = l

theorem Filled.next {t₀ : FileTree} {before : List PlannedFile} (h : Filled base t₀ before t)
    (hmade : ∀ l, (t₁.fileAt? l).isSome ↔ (t.fileAt? l).isSome ∨ f.place base t₀.current = l) :
    Filled base t₀ (before ++ [f]) t₁ := by
  intro l
  rw [hmade, h l, or_assoc]
  simp [or_and_right, exists_or]

/-- Whether the rules leave a file alone at its turn: it does not overwrite, and there is a file in its
place. -/
def isSpared (base : Path) (turn : PlannedFile × FileTree) : Bool :=
  turn.1.overwrite == .ifMissing && (turn.2.fileAt? (turn.1.place base turn.2.current)).isSome

theorem isSpared_iff {turn : PlannedFile × FileTree} : isSpared base turn = true ↔
    turn.1.overwrite = .ifMissing ∧ (turn.2.fileAt? (turn.1.place base turn.2.current)).isSome := by
  rw [isSpared, Bool.and_eq_true, beq_iff_eq]

/-- A file that sees what is in its place is left alone where the rules leave it alone. -/
theorem sees_iff {turn : PlannedFile × FileTree} :
    Sees base turn ↔ turn.1.isKept base turn.2 = isSpared base turn := by
  rw [Bool.eq_iff_iff, isKept_iff, isSpared_iff, Sees, and_congr_right_iff]

/-- What the rules leave alone, turn by turn, if there is a file wherever one is left alone. -/
theorem Succeeds.spared_eq (h : Succeeds base files t t' s) {t₀ : FileTree} {before : List PlannedFile}
    (hcurrent : t.current = t₀.current) (hbefore : Filled base t₀ before t)
    (hthere : ∀ turn ∈ turns base files t, turn.1.isKept base turn.2 = true →
      isSpared base turn = true) :
    spared base t₀ before files = ((turns base files t).filter (isSpared base)).map Prod.fst := by
  induction h generalizing before with
  | nil => rfl
  | @kept f files t t' s hkept _ ih =>
    rw [turns_kept hkept, List.forall_mem_cons] at hthere
    have hspared := hthere.1 hkept
    obtain ⟨hover, hfile⟩ := isSpared_iff.1 hspared
    rw [hcurrent] at hfile
    have hrest := ih hcurrent (hbefore.next fun l =>
      (or_iff_left_of_imp fun hl => by rwa [← hl]).symm) hthere.2
    rw [turns_kept hkept, List.filter_cons_of_pos hspared, List.map_cons, ← hrest, spared,
      if_pos ⟨hover, (hbefore _).1 hfile⟩]
  | @put f files t t₁ t' s hkept hlands _ ih =>
    rw [turns_put hkept hlands, List.forall_mem_cons] at hthere
    have hnext : Filled base t₀ (before ++ [f]) t₁ := hbefore.next fun l => by
      rw [hlands.fileAt?, hcurrent]
      split <;> simp [*]
    have hrest := ih (hlands.grows.current.trans hcurrent) hnext hthere.2
    rw [turns_put hkept hlands, spared, hrest, List.filter_cons]
    simp only [isSpared_iff, hcurrent, ← hbefore (f.place base t₀.current)]
    split <;> rfl

/-- A file that does not overwrite is left alone where there is one, if what the rules ask for comes
about: a directory in its place would stay there. -/
theorem Succeeds.isSpared_of_isKept (h : Succeeds base files t t' s)
    (hsettled : ∀ l, t'.fileAt? l = settled base t files l) {turn : PlannedFile × FileTree}
    (hm : turn ∈ turns base files t) (hkept : turn.1.isKept base turn.2 = true) :
    isSpared base turn = true := by
  refine isSpared_iff.2 ⟨(isKept_iff.1 hkept).1, ?_⟩
  obtain ⟨hfile, hbefore, hafter⟩ := h.of_mem_turns hm
  obtain ⟨⟨l, e⟩, hentry⟩ := exists_ok_of_toOption (isKept_iff.1 hkept).2
  obtain ⟨rfl, hget⟩ := FileTree.entry_eq_ok hentry
  cases e with
  | file content => exact Option.isSome_iff_exists.2 ⟨content, FileTree.fileAt?_eq_some.2 hget⟩
  | directory =>
    have hplace : (base.join turn.1.path).resolve turn.2.current = turn.1.place base t.current := by
      rw [hbefore.current]
      rfl
    have hsome : (settled base t files (turn.1.place base t.current)).isSome := isSome_settled hfile
    rw [← hsettled, Option.isSome_iff_exists] at hsome
    obtain ⟨content, hcontent⟩ := hsome
    have hthere := FileTree.fileAt?_eq_some.1 hcontent
    rw [← hplace, hafter.directory _ hget] at hthere
    cases hthere

/-- Two filters of which one lets through less let through the same if they let through as much. -/
theorem filter_eq_of_length {α : Type} {p q : α → Bool} {as : List α}
    (hpq : ∀ a ∈ as, p a = true → q a = true)
    (hlength : (as.filter p).length = (as.filter q).length) : as.filter p = as.filter q := by
  have htwice : (as.filter q).filter p = as.filter p := by
    rw [List.filter_filter]
    refine List.filter_congr fun a ha => ?_
    cases hp : p a with
    | false => rfl
    | true => rw [hpq a ha hp, Bool.and_true]
  exact (htwice ▸ List.filter_sublist (p := p) (l := as.filter q)).eq_of_length hlength

/-- **Exactly then does what the rules ask for come about.** -/
theorem Succeeds.settles_iff (h : Succeeds base files t t' s) :
    (∀ l, t'.fileAt? l = settled base t files l) ∧ leftAlone base files t = spared base t [] files ↔
      ∀ turn ∈ turns base files t, Sees base turn := by
  have hfilled : Filled base t [] t := fun l => by simp
  simp only [sees_iff]
  constructor
  · rintro ⟨hsettled, hspared⟩
    have hsub : ∀ turn ∈ turns base files t, turn.1.isKept base turn.2 = true →
        isSpared base turn = true := fun turn => h.isSpared_of_isKept hsettled
    rw [h.spared_eq rfl hfilled hsub] at hspared
    -- What is left alone is among what the rules leave alone, and there are as many of both.
    have hsame := filter_eq_of_length hsub (by simpa [leftAlone] using congrArg List.length hspared)
    intro turn hm
    refine Bool.eq_iff_iff.2 ⟨hsub turn hm, fun hthere => ?_⟩
    have hmem := List.mem_filter.2 ⟨hm, hthere⟩
    rw [← hsame] at hmem
    exact (List.mem_filter.1 hmem).2
  · intro hsees
    refine ⟨fun l => h.settles fun turn hm => sees_iff.2 (hsees turn hm), ?_⟩
    rw [h.spared_eq rfl hfilled fun turn hm hk => hsees turn hm ▸ hk, leftAlone]
    exact congrArg _ (List.filter_congr hsees)

/-! ## All files of a registry -/

theorem files_foldl_register (files : List PlannedFile) (r : FileRegistry) :
    (files.foldl register r).files = r.files ++ files := by
  induction files generalizing r with
  | nil => rw [List.foldl_nil, List.append_nil]
  | cons f files ih => rw [List.foldl_cons, ih, register, List.append_assoc, List.singleton_append]

/-- Files are written in stable order by kind. -/
theorem stableBy_inOrder (r : FileRegistry) : StableBy (·.category.index) r.files r.inOrder :=
  stableBy_sortBy _ r.files

/-- **What becomes of planned files.** They are listed and written in stable order by kind. If all can be
written, each is counted or, if it is left alone, told by name, in order; in each place stands what the
last file holds that was written there, and where no file goes none changes. Now the rules ask that a file
which overwrites is written, the last one to stay, and that one which does not is left alone where there
is one already. This comes about exactly if each of those that do not overwrite finds by its path, at its
turn, something if and only if there is a file in its place. -/
theorem writeAll_settles_iff (files : List PlannedFile) (base : Path) :
    let r := files.foldl register empty
    StableBy (·.category.index) files r.inOrder ∧
    StableBy (·.category.index) (files.map PlannedFile.preview) r.preview ∧
    ∀ (t t' : FileTree) (s : WriteStats), t.WellFormed → r.writeAll base t = (t', .ok s) →
      s = ⟨(written base r.inOrder t).length, (leftAlone base r.inOrder t).map PlannedFile.path⟩ ∧
      s.written + s.skipped.length = files.length ∧
      (∀ l, t'.fileAt? l =
        ((lastAt base t.current (written base r.inOrder t) l).map PlannedFile.bytes).or (t.fileAt? l)) ∧
      (∀ l, (∀ f ∈ files, f.place base t.current ≠ l) → t'.fileAt? l = t.fileAt? l) ∧
      ((∀ l, t'.fileAt? l = settled base t r.inOrder l) ∧
          leftAlone base r.inOrder t = spared base t [] r.inOrder ↔
        ∀ turn ∈ turns base r.inOrder t, Sees base turn) := by
  intro r
  have hfiles : r.files = files := files_foldl_register files empty
  have hstable : StableBy (·.category.index) files r.inOrder := hfiles ▸ stableBy_inOrder r
  refine ⟨hstable, hstable.map fun _ => rfl, fun t t' s ht h => ?_⟩
  have hsucceeds : Succeeds base r.inOrder t t' s := succeeds_of_writeFiles ht h
  refine ⟨hsucceeds.stats_eq, hsucceeds.length_eq.trans hstable.perm.length_eq, hsucceeds.fileAt?,
    fun l hl => ?_, hsucceeds.settles_iff⟩
  have hnone : lastAt base t.current (written base r.inOrder t) l = none :=
    lastAt_eq_none_iff.2 fun f hf => hl f (hstable.mem_iff.1 (mem_of_mem_written hsucceeds hf))
  rw [hsucceeds.fileAt?, hnone]
  rfl

/-- Stubs, of which one is there and one is planned twice, and a module that is planned twice. -/
theorem writeAll_settles_repeated :
    let t := (FileTree.empty.putBytes ⟨"out/a/tsconfig.json"⟩ "user".toUTF8).1
    let files : List PlannedFile := [.ofCategory .generated ⟨"a/x.ts"⟩ "1",
      .ofCategory .config ⟨"a/tsconfig.json"⟩ "stub", .ofCategory .config ⟨"b/tsconfig.json"⟩ "first",
      .ofCategory .generated ⟨"a/x.ts"⟩ "2", .ofCategory .config ⟨"b/tsconfig.json"⟩ "second"]
    let r := files.foldl register empty
    let t' := (r.writeAll ⟨"out"⟩ t).1
    t.WellFormed ∧ r.writeAll ⟨"out"⟩ t = (t', .ok ⟨3, [⟨"a/tsconfig.json"⟩, ⟨"b/tsconfig.json"⟩]⟩) ∧
      (∀ turn ∈ turns ⟨"out"⟩ r.inOrder t, Sees ⟨"out"⟩ turn) ∧
      (∀ l, t'.fileAt? l = settled ⟨"out"⟩ t r.inOrder l) ∧
      t'.fileAt? ["work", "out", "a", "tsconfig.json"] = some "user".toUTF8 ∧
      t'.fileAt? ["work", "out", "b", "tsconfig.json"] = some "first".toUTF8 ∧
      t'.fileAt? ["work", "out", "a", "x.ts"] = some "2".toUTF8 := by
  intro t files r t'
  have ht : t.WellFormed := by decide +kernel
  have hwritten : r.writeAll ⟨"out"⟩ t =
      (t', .ok ⟨3, [⟨"a/tsconfig.json"⟩, ⟨"b/tsconfig.json"⟩]⟩) :=
    Prod.ext rfl (ok_of_toOption (by decide +kernel))
  have hsees : ∀ turn ∈ turns ⟨"out"⟩ r.inOrder t, Sees ⟨"out"⟩ turn := by decide +kernel
  obtain ⟨-, -, hall⟩ := writeAll_settles_iff files ⟨"out"⟩
  have hsettled := ((hall t t' _ ht hwritten).2.2.2.2.2 hsees).1
  refine ⟨ht, hwritten, hsees, hsettled, ?_, ?_, ?_⟩
  · rw [hsettled]
    decide +kernel
  · rw [hsettled]
    decide +kernel
  · rw [hsettled]
    decide +kernel

/-- **A file that does not overwrite may overwrite**: its path leads through a directory that is made only
when it is written, so that what is in its place is not seen before. -/
theorem writeAll_overwrites_unseen :
    let t := (FileTree.empty.putBytes ⟨"out/f.json"⟩ "old".toUTF8).1
    let f := PlannedFile.ofCategory .config ⟨"x/../f.json"⟩ "new"
    let r := [f].foldl register empty
    let place := f.place ⟨"out"⟩ t.current
    f.overwrite = .ifMissing ∧ t.fileAt? place = some "old".toUTF8 ∧
      (r.writeAll ⟨"out"⟩ t).2 = .ok ⟨1, []⟩ ∧
      (r.writeAll ⟨"out"⟩ t).1.fileAt? place = some "new".toUTF8 ∧
      settled ⟨"out"⟩ t r.inOrder place = some "old".toUTF8 := by
  exact ⟨by decide, by decide +kernel, ok_of_toOption (by decide +kernel), by decide +kernel,
    by decide +kernel⟩

end FileRegistry

end Multidialect
