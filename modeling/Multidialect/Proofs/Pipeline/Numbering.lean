import Multidialect.Pipeline.Snapshot
import Multidialect.Proofs.Path.Steps
import Multidialect.Proofs.Text.Characters

/-! # The numbers of snapshots

The snapshots of a pair are numbered from 1 on, one after another, whatever is taken of other pairs in
between (`numbered_captureAll`). The number of a snapshot can be read back from the name of its file
(`ordinal_of_fileName`), and its pair from the directories on the way there. So no two snapshots of a
log have the same path (`Numbered.steps_apart`).
-/

namespace Multidialect

open Path (IsName)
open Text (takeWhile_of_run)

/-! ## The path of a snapshot -/

namespace PassSnapshot

variable {s t : PassSnapshot} {m n : Nat}

/-- A snapshot whose names are components of a path. -/
structure Named (s : PassSnapshot) : Prop where
  template : IsName s.template
  dialect : IsName s.dialect
  pass : IsName s.pass

/-- The name of the file that a snapshot is written to. -/
def fileName (s : PassSnapshot) (ordinal : Nat) : String :=
  twoDigits ordinal ++ "-" ++ s.pass ++ ".json"

theorem toList_twoDigits (n : Nat) :
    (twoDigits n).toList = (if n < 10 then ['0'] else []) ++ Nat.toDigits 10 n := by
  unfold twoDigits
  split
  · simp
  · simp

theorem isDigit_of_mem_twoDigits {c : Char} (h : c ∈ (twoDigits n).toList) : c.isDigit = true := by
  rw [toList_twoDigits, List.mem_append] at h
  rcases h with h | h
  · split at h
    · rw [List.mem_singleton.1 h]
      rfl
    · cases h
  · exact Nat.isDigit_of_mem_toDigits (by decide) (by decide) h

/-- A zero in front of a number does not change it. -/
theorem ofDigitChars_twoDigits (n : Nat) : Nat.ofDigitChars 10 (twoDigits n).toList 0 = n := by
  rw [toList_twoDigits]
  split
  · rw [List.singleton_append, Nat.ofDigitChars_cons]
    exact Nat.ofDigitChars_ten_toDigits
  · exact Nat.ofDigitChars_ten_toDigits

theorem toList_fileName (s : PassSnapshot) (n : Nat) :
    (s.fileName n).toList =
      (twoDigits n).toList ++ '-' :: (s.pass.toList ++ ['.', 'j', 's', 'o', 'n']) := by
  simp [fileName]

/-- The number of a snapshot is what its file's name starts with. -/
theorem ordinal_of_fileName (h : s.fileName m = t.fileName n) : m = n := by
  have hdigits : ∀ (s : PassSnapshot) (n : Nat),
      (s.fileName n).toList.takeWhile Char.isDigit = (twoDigits n).toList := fun s n => by
    rw [toList_fileName]
    exact (takeWhile_of_run (fun c => isDigit_of_mem_twoDigits) (by simp)).1
  rw [← ofDigitChars_twoDigits m, ← hdigits s, h, hdigits, ofDigitChars_twoDigits]

theorem isName_fileName (h : '/' ∉ s.pass.toList) (n : Nat) : IsName (s.fileName n) := by
  have hdash : '-' ∈ (s.fileName n).toList := by simp [toList_fileName]
  have hslash : '/' ∉ (twoDigits n).toList := fun hm => by simpa using isDigit_of_mem_twoDigits hm
  constructor
  · exact List.ne_nil_of_mem hdash
  · intro he
    simp [he] at hdash
  · intro he
    simp [he] at hdash
  · simp [toList_fileName, hslash, h]

theorem steps_relativePath (h : s.Named) (n : Nat) :
    (s.relativePath n).steps = [.name s.dialect, .name s.template, .name (s.fileName n)] := by
  have hfile := isName_fileName h.pass.no_slash n
  have hjoin : s.relativePath n = ((Path.mk s.dialect).child s.template).child (s.fileName n) := rfl
  rw [hjoin, Path.steps_child _ hfile, Path.steps_child _ h.template, Path.steps_name h.dialect]
  rfl

/-- A path tells of what pair it is a snapshot, and which of them. -/
theorem of_steps_relativePath (hs : s.Named) (ht : t.Named)
    (h : (s.relativePath m).steps = (t.relativePath n).steps) : s.samePair t = true ∧ m = n := by
  rw [steps_relativePath hs, steps_relativePath ht] at h
  simp only [List.cons.injEq, Path.Component.name.injEq, and_true] at h
  obtain ⟨hdialect, htemplate, hfile⟩ := h
  exact ⟨by simp [samePair, hdialect, htemplate], ordinal_of_fileName hfile⟩

end PassSnapshot

/-! ## The numbers of a log -/

namespace SnapshotLog

variable {log : SnapshotLog} {s : PassSnapshot}

/-- The snapshots of a pair, with their numbers. -/
def ofPair (log : SnapshotLog) (template dialect : String) : SnapshotLog :=
  log.filter fun entry => entry.2.template = template ∧ entry.2.dialect = dialect

/-- The snapshots of each pair have the numbers from 1 on, in the order in which they were taken. -/
def Numbered (log : SnapshotLog) : Prop :=
  ∀ template dialect, (log.ofPair template dialect).map Prod.fst =
    List.range' 1 (log.ofPair template dialect).length

/-- The log with more snapshots. -/
def captureAll (log : SnapshotLog) (ss : List PassSnapshot) : SnapshotLog := ss.foldl capture log

theorem ofPair_append (log more : SnapshotLog) (template dialect : String) :
    (log ++ more).ofPair template dialect = log.ofPair template dialect ++ more.ofPair template dialect :=
  List.filter_append ..

theorem numbered_nil : Numbered [] := fun _ _ => rfl

theorem nextOrdinal_eq (log : SnapshotLog) (s : PassSnapshot) :
    log.nextOrdinal s = 1 + (log.ofPair s.template s.dialect).length := by
  have hsame : (fun entry : Nat × PassSnapshot => entry.2.samePair s) =
      fun entry => decide (entry.2.template = s.template ∧ entry.2.dialect = s.dialect) := by
    funext entry
    simp only [PassSnapshot.samePair, Bool.decide_and]
    rfl
  rw [nextOrdinal, ofPair, hsame]

/-- **One more snapshot** has the next number of its pair, and those of other pairs keep theirs. -/
theorem Numbered.capture (h : log.Numbered) (s : PassSnapshot) : (log.capture s).Numbered := by
  intro template dialect
  have hpair := h template dialect
  unfold SnapshotLog.capture
  by_cases hs : s.template = template ∧ s.dialect = dialect
  · obtain ⟨rfl, rfl⟩ := hs
    have hone : ofPair [(log.nextOrdinal s, s)] s.template s.dialect = [(log.nextOrdinal s, s)] := by
      simp [ofPair]
    rw [ofPair_append, hone, List.map_append, hpair, List.length_append, List.length_singleton,
      List.range'_1_concat, nextOrdinal_eq]
    rfl
  · have hnone : ofPair [(log.nextOrdinal s, s)] template dialect = [] := by simpa [ofPair] using hs
    rw [ofPair_append, hnone, List.append_nil]
    exact hpair

theorem Numbered.captureAll (h : log.Numbered) (ss : List PassSnapshot) :
    (log.captureAll ss).Numbered := by
  induction ss generalizing log with
  | nil => exact h
  | cons s ss ih => exact ih (h.capture s)

theorem map_snd_captureAll (log : SnapshotLog) (ss : List PassSnapshot) :
    (log.captureAll ss).map Prod.snd = log.map Prod.snd ++ ss := by
  induction ss generalizing log with
  | nil => exact (List.append_nil _).symm
  | cons s ss ih =>
    have hmore : (log.capture s).map Prod.snd = log.map Prod.snd ++ [s] := List.map_append
    rw [captureAll, List.foldl_cons, ← captureAll, ih, hmore, List.append_assoc]
    rfl

/-- **No number of a pair is used again**: a later snapshot has a greater one. -/
theorem Numbered.pairwise_lt (h : log.Numbered) :
    log.Pairwise fun e e' => e.2.samePair e'.2 = true → e.1 < e'.1 := by
  rw [List.pairwise_iff_getElem]
  intro i j hi hj hij hsame
  obtain ⟨htemplate, hdialect⟩ : log[i].2.template = log[j].2.template ∧
      log[i].2.dialect = log[j].2.dialect := by
    simpa [PassSnapshot.samePair] using hsame
  have hpair : (log.ofPair log[j].2.template log[j].2.dialect).Pairwise fun e e' => e.1 < e'.1 := by
    rw [← List.pairwise_map, h]
    exact List.pairwise_lt_range' 1
  have hlt := List.pairwise_iff_getElem.1 (List.pairwise_filter.1 hpair) i j hi hj hij
  exact hlt (by simp [htemplate, hdialect]) (by simp)

/-- **No two snapshots have the same path.** -/
theorem Numbered.steps_apart (h : log.Numbered) (hnames : ∀ e ∈ log, e.2.Named) :
    log.Pairwise fun e e' => (e.2.relativePath e.1).steps ≠ (e'.2.relativePath e'.1).steps := by
  refine h.pairwise_lt.imp_of_mem fun he he' hlt hsteps => ?_
  obtain ⟨hsame, hordinal⟩ := PassSnapshot.of_steps_relativePath (hnames _ he) (hnames _ he') hsteps
  exact Nat.ne_of_lt (hlt hsame) hordinal

/-- A new snapshot has a path that no earlier one has. -/
theorem Numbered.nextOrdinal_apart (h : log.Numbered) (hnames : ∀ e ∈ log, e.2.Named) (hs : s.Named)
    {e : Nat × PassSnapshot} (he : e ∈ log) :
    (s.relativePath (log.nextOrdinal s)).steps ≠ (e.2.relativePath e.1).steps := by
  have hall : ∀ e ∈ log.capture s, e.2.Named :=
    List.forall_mem_append.2 ⟨hnames, List.forall_mem_singleton.2 hs⟩
  have hapart := (h.capture s).steps_apart hall
  exact ((List.pairwise_append.1 hapart).2.2 e he _ (List.mem_singleton.2 rfl)).symm

end SnapshotLog

end Multidialect
