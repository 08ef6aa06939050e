import Multidialect.Proofs.Template.Sites

/-! # Terms

A term starts with a part of a word, and no word starts or ends within it. It may end with something
else, as `pg-` does. So it is found wherever it stands behind no part of a word
(`IsTerm.wordSite_eq_some`), and in a term only at its start.
-/

namespace Multidialect.Text

/-- Whether a text starts with a part of a word. -/
def startsWord (t : Text) : Bool := t.head?.any isWordChar

theorem startsWord_append {u : Text} (hu : u ≠ []) (v : Text) :
    startsWord (u ++ v) = startsWord u := by
  obtain ⟨c, u, rfl⟩ := List.exists_cons_of_ne_nil hu
  rfl

theorem head?_eq_of_isPrefix {u t : Text} (h : u <+: t) (hu : u ≠ []) : u.head? = t.head? := by
  obtain ⟨rest, rfl⟩ := h
  obtain ⟨c, u, rfl⟩ := List.exists_cons_of_ne_nil hu
  rfl

/-- Neither text starts with the other. -/
def Unlike (u v : Text) : Prop := ¬ u <+: v ∧ ¬ v <+: u

theorem unlike_of_head? {u v : Text} (hu : u ≠ []) (hv : v ≠ []) (h : u.head? ≠ v.head?) : Unlike u v :=
  ⟨fun hpre => h (head?_eq_of_isPrefix hpre hu), fun hpre => h (head?_eq_of_isPrefix hpre hv).symm⟩

theorem Unlike.symm {u v : Text} (h : Unlike u v) : Unlike v u := And.symm h

theorem unlike_of_append_ne {u v : Text} (h : ∀ r r', u ++ r ≠ v ++ r') : Unlike u v :=
  ⟨fun ⟨r, hr⟩ => h r [] (by rw [hr, List.append_nil]),
    fun ⟨r, hr⟩ => h [] r (by rw [hr, List.append_nil])⟩

theorem atWordBoundary_iff {before after : Text} :
    atWordBoundary before after = true ↔ startsWord before ≠ startsWord after := bne_iff_ne

/-- A text that starts with a part of a word, and within which no word starts or ends, no bracket is
opened and no line ends. -/
structure IsTerm (word : Text) : Prop where
  starts : startsWord word = true
  inner : ∀ c ∈ word.dropLast, isWordChar c = true
  noOpen : '<' ∉ word
  noFeed : '\n' ∉ word

/-- The text behind `before` has no `word` where a word starts or ends. -/
def Lacks (word before t : Text) : Prop :=
  ∀ x y, t = x ++ (word ++ y) → atWordBoundary (x.reverse ++ before) (word ++ y) = false

theorem Lacks.behind {word before u t : Text} (h : Lacks word before (u ++ t)) :
    Lacks word (u.reverse ++ before) t := by
  intro x y ht
  rw [ht, ← List.append_assoc] at h
  simpa using h (u ++ x) y rfl

namespace IsTerm

variable {word : Text} (h : IsTerm word)
include h

theorem ne_nil : word ≠ [] := by
  rintro rfl
  exact absurd h.starts (by decide)

theorem startsWord_append (rest : Text) : startsWord (word ++ rest) = true := by
  rw [Text.startsWord_append h.ne_nil, h.starts]

theorem atWordBoundary_append (before rest : Text) :
    atWordBoundary before (word ++ rest) = !startsWord before := by
  have hword := h.startsWord_append rest
  rw [Bool.eq_iff_iff, atWordBoundary_iff, hword]
  cases startsWord before <;> decide

/-- Behind the start of a term there is a part of a word. -/
theorem startsWord_within {x y : Text} (hword : word = x ++ y) (hx : x ≠ []) (hy : y ≠ [])
    (before : Text) : startsWord (x.reverse ++ before) = true := by
  obtain ⟨front, c, rfl⟩ := List.eq_nil_or_concat x |>.resolve_left hx
  have hc := h.inner c (by
    rw [hword, List.dropLast_append_of_ne_nil hy]
    simp)
  simpa [startsWord] using hc

/-- Two terms that are unlike do not start at one place, and within a term no other starts behind
anything but a word. -/
theorem startsWord_of_compatible {new x y : Text} (hunlike : Unlike new word) (hword : word = x ++ y)
    (hy : y ≠ []) (hpre : new <+: y ∨ y <+: new) (before : Text) :
    startsWord (x.reverse ++ before) = true := by
  by_cases hx : x = []
  · subst hx
    rw [List.nil_append] at hword
    subst hword
    exact (hpre.elim hunlike.1 hunlike.2).elim
  · exact h.startsWord_within hword hx hy before

theorem wordSite_eq_some {before after : Text} {found : Unit × Nat} :
    wordSite word before after = some found ↔
      found = ((), word.length) ∧ startsWord before = false ∧ word <+: after := by
  unfold wordSite
  constructor
  · intro hfound
    split at hfound
    · rename_i hsite
      obtain ⟨hbound, hword⟩ := Bool.and_eq_true_iff.1 hsite
      obtain ⟨rest, rfl⟩ := List.isPrefixOf_iff_prefix.1 hword
      rw [h.atWordBoundary_append, Bool.not_eq_true'] at hbound
      exact ⟨(Option.some.inj hfound).symm, hbound, List.prefix_append word rest⟩
    · cases hfound
  · rintro ⟨rfl, hbefore, rest, rfl⟩
    have hword : word.isPrefixOf (word ++ rest) = true :=
      List.isPrefixOf_iff_prefix.2 (List.prefix_append word rest)
    rw [h.atWordBoundary_append, hbefore, hword]
    rfl

theorem wordSite_eq_none {before after : Text}
    (hnone : startsWord before = false → ¬ word <+: after) : wordSite word before after = none :=
  Option.eq_none_iff_forall_ne_some.2 fun _ hfound =>
    hnone (h.wordSite_eq_some.1 hfound).2.1 (h.wordSite_eq_some.1 hfound).2.2

theorem wordSite_foreign {c : Char} (hc : word.head? ≠ some c) (before t : Text) :
    wordSite word before (c :: t) = none :=
  h.wordSite_eq_none fun _ hpre => hc (head?_eq_of_isPrefix hpre h.ne_nil)

/-- Within a term that starts differently a term is not found. -/
theorem wordSite_within {new x y : Text} {c : Char} (hnew : IsTerm new)
    (hhead : new.head? ≠ word.head?) (hword : word = x ++ c :: y) (before after : Text) :
    wordSite new (x.reverse ++ before) (c :: (y ++ after)) = none := by
  refine hnew.wordSite_eq_none fun hbefore hpre => ?_
  have hcompatible := List.prefix_or_prefix_of_prefix hpre (List.prefix_append (c :: y) after)
  have hunlike := unlike_of_head? hnew.ne_nil h.ne_nil hhead
  rw [h.startsWord_of_compatible hunlike hword (List.cons_ne_nil c y) hcompatible] at hbefore
  cases hbefore

theorem finds_wordSite : Finds (wordSite word) fun _ covered => covered ≠ [] := by
  intro before after a n hfound
  rw [Text.finds_wordSite word before after a n hfound]
  exact h.ne_nil

theorem lacks_iff {before t : Text} : Lacks word before t ↔
    ∀ x y, t = x ++ (word ++ y) → startsWord (x.reverse ++ before) = true := by
  refine forall₂_congr fun x y => imp_congr_right fun _ => ?_
  rw [h.atWordBoundary_append, Bool.not_eq_false']

theorem lacks_nil (before : Text) : Lacks word before [] := by
  intro x y hxy
  obtain ⟨-, hword⟩ := List.append_eq_nil_iff.1 hxy.symm
  exact absurd (List.append_eq_nil_iff.1 hword).1 h.ne_nil

/-- Where there is no term, none is found. -/
theorem sites_wordSite_eq_nil {t : Text} (hlacks : Lacks word [] t) : sites (wordSite word) t = [] := by
  refine List.eq_nil_iff_forall_not_mem.2 fun found hmem => ?_
  obtain ⟨p, hp, hfound⟩ := List.mem_filterMap.1 hmem
  obtain ⟨ps, qs, hpieces⟩ := List.append_of_mem hp
  cases p with
  | plain c => cases hfound
  | site a covered =>
    have hsource : ps.flatMap Piece.source ++ (covered ++ qs.flatMap Piece.source) = t := by
      have hall := flatMap_source_pieces (wordSite word) t
      rw [hpieces, List.flatMap_append, List.flatMap_cons] at hall
      exact hall
    have hsite := found_of_piecesFrom h.finds_wordSite
      (fun before after a n hn => by
        obtain ⟨hlength, -, rest, rfl⟩ := h.wordSite_eq_some.1 hn
        rw [(Prod.mk.inj hlength).2, List.length_append]
        exact Nat.le_add_right _ _) hpieces
    obtain ⟨-, hstart, y, hy⟩ := h.wordSite_eq_some.1 hsite
    rw [h.lacks_iff.1 hlacks _ y (by rw [hy, hsource])] at hstart
    cases hstart

theorem lacks_cons {before t : Text} {c : Char}
    (hfirst : word <+: c :: t → startsWord before = true) (hrest : Lacks word (c :: before) t) :
    Lacks word before (c :: t) := by
  rw [h.lacks_iff] at hrest ⊢
  intro x y hxy
  cases x with
  | nil => exact hfirst ⟨y, hxy.symm⟩
  | cons d x =>
    obtain ⟨rfl, hmore⟩ := List.cons.inj hxy
    simpa using hrest x y hmore

/-- A term that is unlike, put in front of a text, brings no term in. -/
theorem lacks_append {new before t : Text} (hnew : IsTerm new) (hunlike : Unlike new word)
    (hrest : Lacks word (new.reverse ++ before) t) : Lacks word before (new ++ t) := by
  rw [h.lacks_iff] at hrest ⊢
  intro x y hxy
  rcases List.append_eq_append_iff.1 hxy with ⟨more, rfl, hmore⟩ | ⟨more, hsplit, hmore⟩
  · simpa using hrest more y hmore
  · by_cases hm : more = []
    · subst hm
      rw [List.append_nil] at hsplit
      subst hsplit
      simpa using hrest [] y hmore.symm
    · have hcompatible := List.prefix_or_prefix_of_prefix (List.prefix_append word y)
        (hmore ▸ List.prefix_append more t)
      exact hnew.startsWord_of_compatible hunlike.symm hsplit hm hcompatible before

end IsTerm

end Multidialect.Text
