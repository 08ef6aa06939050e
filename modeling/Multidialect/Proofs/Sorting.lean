import Mathlib.Data.List.Basic
import Multidialect.Sorting

/-! # Stable order

A list is put in stable order by a key if the keys ascend and the elements with one key stand as they
did before (`StableBy`). There is one such order only (`StableBy.unique`), so that all stable sorting is
the same: sorting by insertion, and the library's merge sort (`stableBy_sortBy`, `stableBy_iff`).
-/

namespace Multidialect

variable {α : Type} {key : α → Nat} {as bs cs : List α}

/-- The elements of `as` by ascending keys, those with one key as they stand in `as`. -/
structure StableBy (key : α → Nat) (as bs : List α) : Prop where
  ascends : bs.Pairwise (key · ≤ key ·)
  stable : ∀ k, bs.filter (key · = k) = as.filter (key · = k)

/-- The order by a key, as sorting takes it. -/
def keyLe (key : α → Nat) (a b : α) : Bool := decide (key a ≤ key b)

namespace StableBy

theorem mem_iff (h : StableBy key as bs) {a : α} : a ∈ bs ↔ a ∈ as := by
  have hsame : a ∈ bs.filter (key · = key a) ↔ a ∈ as.filter (key · = key a) := by rw [h.stable]
  simpa using hsame

/-- Nothing is lost or added. -/
theorem perm (h : StableBy key as bs) : bs.Perm as := by
  classical
  refine List.perm_iff_count.2 fun a => ?_
  have hcount : ∀ cs : List α, (cs.filter (key · = key a)).count a = cs.count a := fun cs =>
    List.count_filter (by simp)
  rw [← hcount bs, h.stable, hcount]

/-- Of two lists with ascending keys the first elements have the same key. -/
theorem key_head_le {a b : α} (hb : StableBy key as (b :: bs)) (hc : StableBy key as (a :: cs)) :
    key b ≤ key a := by
  have ha : a ∈ b :: bs := hb.mem_iff.2 (hc.mem_iff.1 (.head _))
  rcases List.mem_cons.1 ha with rfl | ha
  · exact Nat.le_refl _
  · exact (List.pairwise_cons.1 hb.ascends).1 a ha

/-- **There is one stable order.** -/
theorem unique (hb : StableBy key as bs) (hc : StableBy key as cs) : bs = cs := by
  induction bs generalizing as cs with
  | nil =>
    cases cs with
    | nil => rfl
    | cons c cs => exact absurd (hb.mem_iff.2 (hc.mem_iff.1 (.head _))) List.not_mem_nil
  | cons b bs ih =>
    cases cs with
    | nil => exact absurd (hc.mem_iff.2 (hb.mem_iff.1 (.head _))) List.not_mem_nil
    | cons c cs =>
      have hkey : key b = key c := Nat.le_antisymm (key_head_le hb hc) (key_head_le hc hb)
      have hsame : ∀ k, (b :: bs).filter (key · = k) = (c :: cs).filter (key · = k) := fun k =>
        (hb.stable k).trans (hc.stable k).symm
      obtain ⟨rfl, -⟩ : b = c ∧ bs.filter (key · = key c) = cs.filter (key · = key c) := by
        simpa [hkey] using hsame (key c)
      have hrest : ∀ k, bs.filter (key · = k) = cs.filter (key · = k) := by
        intro k
        by_cases hk : key b = k
        · simpa [hk] using hsame k
        · simpa [hk] using hsame k
      rw [ih ⟨(List.pairwise_cons.1 hb.ascends).2, fun _ => rfl⟩
        ⟨(List.pairwise_cons.1 hc.ascends).2, fun k => (hrest k).symm⟩]

/-- **Where an element comes to stand**: behind those with its key that stood in front of it, in front of
those with its key that stood behind it, and with no greater key in front and no smaller one behind. -/
theorem exists_split {a : α} (h : StableBy key (as ++ a :: bs) cs) :
    ∃ front back, cs = front ++ a :: back ∧
      front.filter (key · = key a) = as.filter (key · = key a) ∧
      back.filter (key · = key a) = bs.filter (key · = key a) ∧
      (∀ c ∈ front, key c ≤ key a) ∧ ∀ c ∈ back, key a ≤ key c := by
  have hkey := h.stable (key a)
  rw [List.filter_append, List.filter_cons_of_pos (by simp)] at hkey
  obtain ⟨front, rest, rfl, hfront, hrest⟩ := List.filter_eq_append_iff.1 hkey
  obtain ⟨between, back, rfl, hbetween, -, hback⟩ := List.filter_eq_cons_iff.1 hrest
  have hascends := h.ascends
  rw [← List.append_assoc] at hascends
  obtain ⟨-, hsecond, hcross⟩ := List.pairwise_append.1 hascends
  refine ⟨front ++ between, back, (List.append_assoc ..).symm, ?_, hback,
    fun c hc => hcross c hc a (.head _), (List.pairwise_cons.1 hsecond).1⟩
  rw [List.filter_append, hfront, List.filter_eq_nil_iff.2 hbetween, List.append_nil]

/-- What is told of elements in stable order is in stable order, if it tells their keys. -/
theorem map {β : Type} {key' : β → Nat} {f : α → β} (h : StableBy key as bs)
    (hkey : ∀ a, key' (f a) = key a) : StableBy key' (as.map f) (bs.map f) := by
  refine ⟨List.pairwise_map.2 (h.ascends.imp fun hle => by rwa [hkey, hkey]), fun k => ?_⟩
  have hsame : ∀ cs : List α, (cs.map f).filter (key' · = k) = (cs.filter (key · = k)).map f := by
    intro cs
    rw [List.filter_map]
    exact congrArg _ (List.filter_congr fun a _ => by rw [Function.comp_apply, hkey])
  rw [hsame, hsame, h.stable]

end StableBy

theorem keyLe_total (a b : α) : (keyLe key a b || keyLe key b a) = true := by
  simpa [keyLe] using Nat.le_total (key a) (key b)

theorem keyLe_trans (a b c : α) (hab : keyLe key a b = true) (hbc : keyLe key b c = true) :
    keyLe key a c = true := by
  simp only [keyLe, decide_eq_true_eq] at *
  exact Nat.le_trans hab hbc

theorem pairwise_keyLe_iff : as.Pairwise (keyLe key · · = true) ↔ as.Pairwise (key · ≤ key ·) := by
  simp [keyLe]

/-- Merge sort is stable: elements with one key are a list in order that it must keep. -/
theorem stableBy_mergeSort (key : α → Nat) (as : List α) :
    StableBy key as (as.mergeSort (keyLe key)) := by
  refine ⟨pairwise_keyLe_iff.1 (List.pairwise_mergeSort keyLe_trans keyLe_total as), fun k => ?_⟩
  have hordered : (as.filter (key · = k)).Pairwise (keyLe key · · = true) := by
    refine List.pairwise_of_forall_mem_list fun a ha b hb => ?_
    simp only [List.mem_filter, decide_eq_true_eq] at ha hb
    simp [keyLe, ha.2, hb.2]
  have hkept := (List.sublist_mergeSort keyLe_trans keyLe_total hordered
    List.filter_sublist).filter (key · = k)
  rw [List.filter_filter, List.filter_congr fun a _ => Bool.and_self _] at hkept
  exact (hkept.eq_of_length (((List.mergeSort_perm as _).filter _).length_eq.symm)).symm

/-- **Stable order is what merge sort yields.** -/
theorem stableBy_iff : StableBy key as bs ↔ bs = as.mergeSort (keyLe key) :=
  ⟨fun h => h.unique (stableBy_mergeSort key as), fun h => h ▸ stableBy_mergeSort key as⟩

/-- An element goes in front of those with its key. -/
theorem filter_insertBy (key : α → Nat) (a : α) (bs : List α) (k : Nat) :
    (insertBy (keyLe key) a bs).filter (key · = k) = (a :: bs).filter (key · = k) := by
  induction bs with
  | nil => rfl
  | cons b bs ih =>
    unfold insertBy
    split
    · rfl
    · rename_i hle
      have hlt : key b < key a := by simpa [keyLe] using hle
      simp only [List.filter_cons, ih]
      by_cases hb : key b = k
      · have ha : key a ≠ k := by omega
        simp [ha, hb]
      · simp [hb]

/-- **Sorting by insertion is stable.** -/
theorem stableBy_sortBy (key : α → Nat) (as : List α) : StableBy key as (sortBy (keyLe key) as) := by
  refine ⟨pairwise_keyLe_iff.1 (pairwise_sortBy (fun a b => by simpa using keyLe_total a b)
    keyLe_trans as), fun k => ?_⟩
  induction as with
  | nil => rfl
  | cons a as ih =>
    have hinsert : sortBy (keyLe key) (a :: as) = insertBy (keyLe key) a (sortBy (keyLe key) as) := rfl
    rw [hinsert, filter_insertBy, List.filter_cons, List.filter_cons, ih]

end Multidialect
