import Multidialect.Proofs.Text.Sites
import Mathlib.Data.List.Basic

/-! # Insertions behind sites

A rule that only inserts leaves what its sites cover and puts something behind it. What it does can
then be said without the search from left to right: at each cut of the text, what stands before it
and behind it tells whether something goes there. Such a description looks back from the end of a
site, where the search looks ahead from its start. If the two fit (`Places`), the search finds what
the description finds (`flatMap_expand_pieces`), in the same order (`sites_eq`), and inserting behind
each site is inserting at the cuts (`replaceSites_eq_withInsertions`).
-/

namespace Multidialect.Text

variable {α β γ : Type}

/-- Each character of a text that follows `before`, with what `look` says of the cut behind it. -/
def annotate (look : (before after : Text) → γ) (before : Text) : Text → List (Char × γ)
  | [] => []
  | c :: cs => (c, look (c :: before) cs) :: annotate look (c :: before) cs

/-- The characters, with `f` of what was found behind them. -/
def withInsertions (f : α → Text) (marks : List (Char × Option α)) : Text :=
  marks.flatMap fun mark => mark.1 :: mark.2.elim [] f

theorem annotate_append (look : Text → Text → γ) (before u v : Text) :
    annotate look before (u ++ v) =
      annotate (fun b a => look b (a ++ v)) before u ++ annotate look (u.reverse ++ before) v := by
  induction u generalizing before with
  | nil => rfl
  | cons c u ih =>
    rw [List.cons_append, annotate, annotate, ih]
    simp

theorem map_annotate (f : β → γ) (look : Text → Text → β) (before t : Text) :
    (annotate look before t).map (fun mark => (mark.1, f mark.2)) =
      annotate (fun b a => f (look b a)) before t := by
  induction t generalizing before with
  | nil => rfl
  | cons c cs ih => simp [annotate, ih]

theorem forall_annotate {P : γ → Prop} {look : Text → Text → γ} (h : ∀ b a, P (look b a))
    (before t : Text) : ∀ mark ∈ annotate look before t, P mark.2 := by
  induction t generalizing before with
  | nil => simp [annotate]
  | cons c cs ih =>
    intro mark hm
    rcases List.mem_cons.1 hm with rfl | hm
    · exact h _ _
    · exact ih _ _ hm

/-- What is found of one kind is counted at the cuts. -/
theorem countP_annotate_congr {look : Text → Text → Option α} {look' : Text → Text → Option β}
    {P : α → Bool} {P' : β → Bool} (h : ∀ b a, (look b a).any P = (look' b a).any P')
    (before t : Text) :
    ((annotate look before t).filterMap (·.2)).countP P =
      ((annotate look' before t).filterMap (·.2)).countP P' := by
  have hmap : ∀ b a, ((look b a).map P).getD false = ((look' b a).map P').getD false := by
    intro b a
    have hany := h b a
    cases hl : look b a <;> cases hl' : look' b a <;> rw [hl, hl'] at hany <;> exact hany
  rw [List.countP_filterMap, List.countP_filterMap]
  induction t generalizing before with
  | nil => rfl
  | cons c cs ih => rw [annotate, annotate, List.countP_cons, List.countP_cons, ih, hmap]

/-! ## A description that fits a search -/

/-- What looks back from a cut finds what `m` finds ahead, `reach before` characters before the cut.
A match may end within the reach of another one that starts before it, as that one is found first. -/
structure Places (m : Matcher α) (look : Text → Text → Option α) (reach : Text → Nat) : Prop where
  sound : ∀ {before after a n}, m before after = some (a, n) →
    0 < n ∧ n ≤ after.length ∧
      (look ((after.take n).reverse ++ before) (after.drop n)).isSome ∧
      n ≤ reach ((after.take n).reverse ++ before)
  complete : ∀ {before u v a}, look (u.reverse ++ before) v = some a →
    reach (u.reverse ++ before) = u.length → m before (u ++ v) = some (a, u.length)
  bounded : ∀ {before after}, (look before after).isSome →
    0 < reach before ∧ reach before ≤ before.length
  separate : ∀ {before u v}, (look before (u ++ v)).isSome → (look (u.reverse ++ before) v).isSome →
    u ≠ [] → reach (u.reverse ++ before) ≤ u.length

/-- What is found farther on does not reach back before this place. -/
def Clear (look : Text → Text → Option α) (reach : Text → Nat) (before t : Text) : Prop :=
  ∀ u v, t = u ++ v → u ≠ [] → (look (u.reverse ++ before) v).isSome →
    reach (u.reverse ++ before) ≤ u.length

/-- The characters of a site, with what was found behind the last one. -/
def mark (a : α) : Text → List (Char × Option α)
  | [] => []
  | [c] => [(c, some a)]
  | c :: d :: cs => (c, none) :: mark a (d :: cs)

/-- The characters of a piece, with what was found. -/
def Piece.expand : Piece α → List (Char × Option α)
  | .plain c => [(c, none)]
  | .site a covered => mark a covered

theorem withInsertions_mark (f : α → Text) (a : α) {t : Text} (ht : t ≠ []) :
    withInsertions f (mark a t) = t ++ f a := by
  induction t with
  | nil => exact absurd rfl ht
  | cons c t ih =>
    cases t with
    | nil => simp [mark, withInsertions]
    | cons d t =>
      have hrest := ih (by simp)
      simp only [withInsertions, mark, List.flatMap_cons] at hrest ⊢
      rw [hrest]
      simp

theorem filterMap_mark (a : α) {t : Text} (ht : t ≠ []) : (mark a t).filterMap (·.2) = [a] := by
  induction t with
  | nil => exact absurd rfl ht
  | cons c t ih =>
    cases t with
    | nil => rfl
    | cons d t => exact ih (by simp)

section Search

variable {m : Matcher α} {look : Text → Text → Option α} {reach : Text → Nat}

/-- A text in which nothing is found but at its end. -/
theorem annotate_of_last {before u v : Text} {a : α} (hu : u ≠ [])
    (hlast : look (u.reverse ++ before) v = some a)
    (hinner : ∀ w x, u = w ++ x → w ≠ [] → x ≠ [] → look (w.reverse ++ before) (x ++ v) = none) :
    annotate look before (u ++ v) = mark a u ++ annotate look (u.reverse ++ before) v := by
  induction u generalizing before with
  | nil => exact absurd rfl hu
  | cons c u ih =>
    cases u with
    | nil =>
      simp only [List.reverse_singleton, List.singleton_append] at hlast
      simp [annotate, mark, hlast]
    | cons d u =>
      have hfirst := hinner [c] (d :: u) rfl (by simp) (by simp)
      simp only [List.reverse_singleton, List.singleton_append] at hfirst
      have hrest := @ih (c :: before) (by simp) (by simpa using hlast) fun w x hw hw' hx => by
        simpa using hinner (c :: w) x (by rw [hw]; rfl) (by simp) hx
      rw [List.cons_append, annotate, hfirst, hrest]
      simp [mark]

namespace Places

theorem clear_start (h : Places m look reach) (t : Text) : Clear look reach [] t := by
  intro u v _ _ hlook
  simpa using (h.bounded hlook).2

/-- Where nothing is found ahead, nothing that is found farther on reaches back to. -/
theorem clear_next (h : Places m look reach) {before cs : Text} {c : Char}
    (hclear : Clear look reach before (c :: cs)) (hnone : m before (c :: cs) = none) :
    Clear look reach (c :: before) cs := by
  rintro u v rfl hu hlook
  have hreach := hclear (c :: u) v rfl (by simp) (by simpa using hlook)
  simp only [List.reverse_cons, List.append_assoc, List.singleton_append, List.length_cons] at hreach
  rcases Nat.lt_or_ge (reach (u.reverse ++ c :: before)) (u.length + 1) with hlt | hge
  · omega
  · obtain ⟨a, ha⟩ := Option.isSome_iff_exists.1 hlook
    have hlook : look ((c :: u).reverse ++ before) v = some a := by simpa using ha
    have hfound := h.complete hlook (by simp; omega)
    rw [List.cons_append, hnone] at hfound
    cases hfound

theorem clear_behind (h : Places m look reach) {before t : Text}
    (hlook : (look before t).isSome) : Clear look reach before t := by
  rintro u v rfl hu hfound
  exact h.separate hlook hfound hu

/-- A match ends where something is found that reaches back to its start, and nothing is found within
it. -/
theorem found_of_match (h : Places m look reach) {before t : Text} {a : α} {n : Nat}
    (hclear : Clear look reach before t) (hm : m before t = some (a, n)) :
    look ((t.take n).reverse ++ before) (t.drop n) = some a ∧
      ∀ w x, t.take n = w ++ x → w ≠ [] → x ≠ [] →
        look (w.reverse ++ before) (x ++ t.drop n) = none := by
  obtain ⟨hpos, hle, hsome, hreach⟩ := h.sound hm
  have hlen : (t.take n).length = n := List.length_take_of_le hle
  have hne : t.take n ≠ [] := List.ne_nil_of_length_pos (by omega)
  have hback := hclear (t.take n) (t.drop n) (List.take_append_drop n t).symm hne hsome
  constructor
  · obtain ⟨b, hb⟩ := Option.isSome_iff_exists.1 hsome
    have hfound := h.complete hb (by omega)
    rw [List.take_append_drop, hm] at hfound
    rw [hb, (Prod.mk.inj (Option.some.inj hfound)).1]
  · intro w x hw hw' hx
    refine Option.eq_none_iff_forall_ne_some.2 fun b hb => ?_
    have hinner : (look (w.reverse ++ before) (x ++ t.drop n)).isSome := Option.isSome_of_mem hb
    have hend : (look (x.reverse ++ (w.reverse ++ before)) (t.drop n)).isSome := by
      rw [← List.append_assoc, ← List.reverse_append, ← hw]
      exact hsome
    have hsep := h.separate hinner hend hx
    rw [← List.append_assoc, ← List.reverse_append, ← hw] at hsep
    have hsum : w.length + x.length = n := by rw [← hlen, hw, List.length_append]
    have hpos := List.length_pos_iff.2 hw'
    omega

/-- Where nothing is found ahead, nothing ends behind the next character. -/
theorem look_eq_none (h : Places m look reach) {before cs : Text} {c : Char}
    (hclear : Clear look reach before (c :: cs)) (hnone : m before (c :: cs) = none) :
    look (c :: before) cs = none := by
  refine Option.eq_none_iff_forall_ne_some.2 fun a ha => ?_
  have hsome : (look (c :: before) cs).isSome := Option.isSome_of_mem ha
  have hreach := hclear [c] cs rfl (by simp) hsome
  have hpos := (h.bounded hsome).1
  simp only [List.reverse_singleton, List.singleton_append, List.length_singleton] at hreach
  have hlook : look ([c].reverse ++ before) cs = some a := ha
  have hfound := h.complete hlook (by simp; omega)
  rw [List.singleton_append, hnone] at hfound
  cases hfound

theorem eq_none_of_nil (h : Places m look reach) (before : Text) : m before [] = none := by
  refine Option.eq_none_iff_forall_ne_some.2 fun found hm => ?_
  obtain ⟨hpos, hle, -⟩ := h.sound hm
  simp at hle
  omega

theorem flatMap_expand_piecesFrom (h : Places m look reach) (before : Text) (closed : Bool)
    (skip : Nat) (t : Text)
    (hclear : Clear look reach ((t.take skip).reverse ++ before) (t.drop skip)) :
    (piecesFrom m before closed skip t).flatMap Piece.expand =
      annotate look ((t.take skip).reverse ++ before) (t.drop skip) := by
  induction t generalizing before closed skip with
  | nil =>
    simp [piecesFrom, h.eq_none_of_nil, annotate]
  | cons c cs ih =>
    cases skip with
    | succ skip =>
      simp only [List.take_succ_cons, List.reverse_cons, List.append_assoc, List.singleton_append,
        List.drop_succ_cons] at hclear ⊢
      exact ih _ _ _ hclear
    | zero =>
      simp only [List.take_zero, List.reverse_nil, List.nil_append, List.drop_zero] at hclear ⊢
      rw [piecesFrom]
      cases hm : m before (c :: cs) with
      | none =>
        have hrest := ih (c :: before) false 0 (h.clear_next hclear hm)
        simp only [List.take_zero, List.reverse_nil, List.nil_append, List.drop_zero] at hrest
        simp only [List.flatMap_cons, Piece.expand, hrest, annotate,
          h.look_eq_none hclear hm, List.singleton_append]
      | some found =>
        obtain ⟨a, n⟩ := found
        cases n with
        | zero => exact absurd (h.sound hm).1 (Nat.lt_irrefl 0)
        | succ n =>
          obtain ⟨hlast, hinner⟩ := h.found_of_match hclear hm
          have hbehind := h.clear_behind (Option.isSome_of_mem hlast)
          have hne : (c :: cs).take (n + 1) ≠ [] := by simp
          have hsplit := annotate_of_last hne hlast hinner
          rw [List.take_append_drop] at hsplit
          simp only [List.take_succ_cons, List.reverse_cons, List.append_assoc,
            List.singleton_append, List.drop_succ_cons] at hbehind hsplit ⊢
          rw [List.flatMap_cons, ih _ _ _ hbehind, hsplit]
          rfl

theorem flatMap_expand_pieces (h : Places m look reach) (t : Text) :
    (pieces m t).flatMap Piece.expand = annotate look [] t := by
  have hall := h.flatMap_expand_piecesFrom [] false 0 t (by simpa using h.clear_start t)
  simpa [pieces] using hall

/-- A site covers something. -/
theorem covered_ne_nil (h : Places m look reach) : Finds m fun _ covered => covered ≠ [] := by
  intro before after a n hm
  obtain ⟨hpos, hle, -⟩ := h.sound hm
  exact List.ne_nil_of_length_pos (by rw [List.length_take_of_le hle]; exact hpos)

/-- **The sites** are what is found at the cuts. -/
theorem sites_eq (h : Places m look reach) (t : Text) :
    sites m t = (annotate look [] t).filterMap (·.2) := by
  rw [← h.flatMap_expand_pieces, List.filterMap_flatMap, sites, List.filterMap_eq_flatMap_toList]
  refine List.flatMap_congr fun p hp => ?_
  cases p with
  | plain c => rfl
  | site a covered => exact (filterMap_mark a (mem_pieces h.covered_ne_nil hp)).symm

/-- **Inserting behind each site** is inserting at the cuts. -/
theorem replaceSites_eq_withInsertions (h : Places m look reach) (f : α → Text) (t : Text) :
    replaceSites m (fun a covered => covered ++ f a) t = withInsertions f (annotate look [] t) := by
  rw [← h.flatMap_expand_pieces, withInsertions, List.flatMap_assoc, replaceSites]
  refine List.flatMap_congr fun p hp => ?_
  cases p with
  | plain c => rfl
  | site a covered => exact (withInsertions_mark f a (mem_pieces h.covered_ne_nil hp)).symm

end Places

end Search

end Multidialect.Text
