/-! # Sorting

Entries, names and files are put in order by insertion; what is equal keeps its order.

* `sortBy`: a list in order.
* `sortBy_perm`: nothing is lost or added.
* `pairwise_sortBy`: each element may stand before all that follow it.
* `sortBy_eq_of_perm`: the order does not depend on how a list was put together.
-/

namespace Multidialect

variable {α : Type}

/-- The list with an element in front of the first that may follow it. -/
def insertBy (le : α → α → Bool) (a : α) : List α → List α
  | [] => [a]
  | b :: bs => if le a b then a :: b :: bs else b :: insertBy le a bs

/-- The list in order. -/
def sortBy (le : α → α → Bool) (as : List α) : List α := as.foldr (insertBy le) []

/-! ## Lemmas -/

theorem insertBy_perm (le : α → α → Bool) (a : α) (bs : List α) :
    (insertBy le a bs).Perm (a :: bs) := by
  induction bs with
  | nil => exact .refl _
  | cons b bs ih =>
    unfold insertBy
    split
    · exact .refl _
    · exact (ih.cons b).trans (.swap a b bs)

theorem sortBy_perm (le : α → α → Bool) (as : List α) : (sortBy le as).Perm as := by
  induction as with
  | nil => exact .refl _
  | cons a as ih => exact (insertBy_perm le a _).trans (ih.cons a)

section

variable {le : α → α → Bool} (total : ∀ a b, le a b = true ∨ le b a = true)
  (trans : ∀ a b c, le a b = true → le b c = true → le a c = true)

include total trans

theorem pairwise_insertBy {a : α} {bs : List α} (h : bs.Pairwise (le · · = true)) :
    (insertBy le a bs).Pairwise (le · · = true) := by
  induction bs with
  | nil => exact List.pairwise_singleton _ a
  | cons b bs ih =>
    obtain ⟨hb, hbs⟩ := List.pairwise_cons.1 h
    unfold insertBy
    split
    · rename_i hab
      refine List.pairwise_cons.2 ⟨fun c hc => ?_, h⟩
      rcases List.mem_cons.1 hc with rfl | hc
      · exact hab
      · exact trans a b c hab (hb c hc)
    · rename_i hab
      refine List.pairwise_cons.2 ⟨fun c hc => ?_, ih hbs⟩
      rcases List.mem_cons.1 ((insertBy_perm le a bs).subset hc) with rfl | hc
      · exact (total b c).resolve_right hab
      · exact hb c hc

/-- **A list in order.** -/
theorem pairwise_sortBy (as : List α) : (sortBy le as).Pairwise (le · · = true) := by
  induction as with
  | nil => exact .nil
  | cons a as ih => exact pairwise_insertBy total trans ih

/-- **Lists of the same elements** have the same order, if no two elements may stand both ways. -/
theorem sortBy_eq_of_perm (antisymm : ∀ a b, le a b = true → le b a = true → a = b)
    {as bs : List α} (h : as.Perm bs) : sortBy le as = sortBy le bs := by
  refine List.Perm.eq_of_pairwise (fun a b _ _ => antisymm a b) (pairwise_sortBy total trans as)
    (pairwise_sortBy total trans bs) ?_
  exact (sortBy_perm le as).trans (h.trans (sortBy_perm le bs).symm)

end

end Multidialect
