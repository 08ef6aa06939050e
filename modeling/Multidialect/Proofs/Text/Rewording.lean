import Multidialect.Proofs.Text.Lines
import Multidialect.Proofs.Text.Words

/-! # Rewording

A text is reworded by exchanging terms for others where a word starts or ends, and by putting texts
in brackets in there (`Reworded`). What cannot start within a part of the new text was not put there,
so this part was kept (`Reworded.kept`). Hence one exchange after another is still found in the text
that was there at first (`Reworded.exchangeWord`), and where a term has been exchanged it does not
occur any more, however its surroundings have changed (`lacks_exchangeWord`).
-/

namespace Multidialect.Text

/-- Terms that can be exchanged for each other: they end alike, but do not start alike. -/
structure IsExchange (old new : Text) : Prop where
  heads : new.head? ≠ old.head?
  ends : startsWord old.reverse = startsWord new.reverse
  old : IsTerm old
  new : IsTerm new

/-- Behind terms that end alike, what stands in front of the terms does not matter. -/
theorem startsWord_reverse_append {old new : Text} (hold : IsTerm old) (hnew : IsTerm new)
    (hends : startsWord old.reverse = startsWord new.reverse) (made before : Text) :
    startsWord (new.reverse ++ made) = startsWord (old.reverse ++ before) := by
  rw [startsWord_append (mt List.reverse_eq_nil_iff.1 hnew.ne_nil), ← hends,
    startsWord_append (mt List.reverse_eq_nil_iff.1 hold.ne_nil)]

/-- A text in angle brackets. -/
def Bracketed (b : Text) : Prop := ∃ body, b = '<' :: body ++ ['>']

/-- The text `t` behind `before` can be reworded as `s`: its characters are kept, but where a word
starts or ends one term is exchanged for another as in `rules`, or a text is put in as `puts` has
it. -/
inductive Reworded (rules : List (Text × Text)) (puts : Text → Prop) :
    (before t s : Text) → Prop
  | nil {before : Text} : Reworded rules puts before [] []
  | keep {before t s : Text} (c : Char) (rest : Reworded rules puts (c :: before) t s) :
      Reworded rules puts before (c :: t) (c :: s)
  | exchange {before t s old new : Text} (rule : (old, new) ∈ rules)
      (bound : atWordBoundary before (old ++ t) = true)
      (rest : Reworded rules puts (old.reverse ++ before) t s) :
      Reworded rules puts before (old ++ t) (new ++ s)
  | put {before t s b : Text} (allowed : puts b) (bound : atWordBoundary before t = true)
      (rest : Reworded rules puts before t s) : Reworded rules puts before t (b ++ s)

namespace Bracketed

variable {b : Text} (h : Bracketed b)
include h

theorem ne_nil : b ≠ [] := by
  obtain ⟨body, rfl⟩ := h
  exact List.cons_ne_nil _ _

theorem head_eq {c : Char} {t s : Text} (hb : b ++ t = c :: s) : c = '<' := by
  obtain ⟨body, rfl⟩ := h
  exact (List.cons.inj hb).1.symm

theorem startsWord_reverse (before : Text) : startsWord (b.reverse ++ before) = false := by
  obtain ⟨body, rfl⟩ := h
  have hclose : isWordChar '>' = false := by decide
  simp [startsWord, hclose]

/-- A text put into brackets, or behind or in front of them, is in brackets. -/
theorem insert {new x y : Text} (hnew : Bracketed new) (hb : b = x ++ y) :
    Bracketed (x ++ new ++ y) := by
  obtain ⟨body, rfl⟩ := h
  obtain ⟨inner, rfl⟩ := hnew
  cases x with
  | nil => exact ⟨inner ++ '>' :: '<' :: body, by rw [List.nil_append] at hb; simp [← hb]⟩
  | cons c x =>
    obtain ⟨rfl, hrest⟩ := List.cons.inj hb
    rcases List.eq_nil_or_concat y with rfl | ⟨y, d, rfl⟩
    · exact ⟨x ++ '<' :: inner, by simp⟩
    · have hsplit : body ++ ['>'] = (x ++ y) ++ [d] := by simpa using hrest
      obtain ⟨-, hlast⟩ := List.append_inj' hsplit rfl
      exact ⟨x ++ ('<' :: inner ++ ['>']) ++ y, by simp [← List.singleton_inj.1 hlast]⟩

end Bracketed

/-- The texts that arise when `new` is put in, and then put into what arose. -/
inductive Nested (new : Text) : Text → Prop
  | one : Nested new new
  | more {x y : Text} (outer : Nested new (x ++ y)) : Nested new (x ++ new ++ y)

theorem Nested.bracketed {new b : Text} (hnew : Bracketed new) (h : Nested new b) :
    Bracketed b := by
  induction h with
  | one => exact hnew
  | more _ ih => exact ih.insert hnew rfl

theorem Nested.mem {new b : Text} (h : Nested new b) {c : Char} (hc : c ∈ b) : c ∈ new := by
  induction h with
  | one => exact hc
  | more _ ih =>
    rw [List.mem_append, List.mem_append] at hc
    rcases hc with (hc | hc) | hc
    · exact ih (List.mem_append_left _ hc)
    · exact hc
    · exact ih (List.mem_append_right _ hc)

namespace Reworded

variable {rules : List (Text × Text)} {puts : Text → Prop} {before t s : Text}

theorem refl (before t : Text) : Reworded rules puts before t t := by
  induction t generalizing before with
  | nil => exact .nil
  | cons c t ih => exact .keep c (ih _)

theorem mono {rules' : List (Text × Text)} {puts' : Text → Prop}
    (hrules : ∀ rule ∈ rules, rule ∈ rules') (hputs : ∀ b, puts b → puts' b)
    (h : Reworded rules puts before t s) : Reworded rules' puts' before t s := by
  induction h with
  | nil => exact .nil
  | keep c _ ih => exact .keep c ih
  | exchange rule bound _ ih => exact .exchange (hrules _ rule) bound ih
  | put allowed bound _ ih => exact .put (hputs _ allowed) bound ih

/-- What stands in front of a place in the new text and in the old one: they end alike, or in the new
one a bracket was closed where a word starts or ends in the old one. -/
def Near (made before t : Text) : Prop :=
  startsWord made = startsWord before ∨
    (startsWord made = false ∧ atWordBoundary before t = true)

theorem Near.append (made before : Text) {u : Text} (hu : u ≠ []) (t : Text) :
    Near (u.reverse ++ made) (u.reverse ++ before) t := by
  have hne : u.reverse ≠ [] := mt List.reverse_eq_nil_iff.1 hu
  exact .inl (by rw [startsWord_append hne, startsWord_append hne])

/-- Where a word starts or ends in the new text, one does in the old text. -/
theorem Near.bound {made y : Text} (h : Near made before t) (hy : startsWord y = startsWord t)
    (hmade : atWordBoundary made y = true) : atWordBoundary before t = true := by
  rcases h with h | h
  · rw [atWordBoundary_iff] at hmade ⊢
    rwa [← h, ← hy]
  · exact h.2

/-- Where a word starts or ends in the new text, a text can be put in. -/
theorem insert {new x y made : Text} (hnew : Bracketed new)
    (h : Reworded [] (Nested new) before t (x ++ y)) (hnear : Near made before t)
    (hbound : atWordBoundary (x.reverse ++ made) y = true) :
    Reworded [] (Nested new) before t (x ++ (new ++ y)) := by
  generalize hs : x ++ y = s at h
  induction h generalizing x made with
  | nil =>
    obtain ⟨rfl, rfl⟩ := List.append_eq_nil_iff.1 hs
    rw [List.nil_append]
    exact .put .one (hnear.bound rfl hbound) .nil
  | @keep _ t s c rest ih =>
    cases x with
    | nil =>
      obtain rfl : y = c :: s := hs
      rw [List.nil_append]
      exact .put .one (hnear.bound rfl hbound) (.keep c rest)
    | cons d x =>
      obtain ⟨rfl, rfl⟩ := List.cons.inj hs
      rw [List.reverse_cons, List.append_assoc] at hbound
      exact .keep d (ih (.append _ _ (List.cons_ne_nil d []) _) hbound rfl)
  | exchange rule => cases rule
  | @put _ t s b allowed bound rest ih =>
    rcases List.append_eq_append_iff.1 hs with ⟨more, rfl, rfl⟩ | ⟨more, rfl, rfl⟩
    · have hput := Reworded.put allowed.more bound rest
      simpa using hput
    · rw [List.reverse_append, List.append_assoc] at hbound
      rw [List.append_assoc]
      have hclosed := (allowed.bracketed hnew).startsWord_reverse made
      exact .put allowed bound (ih (.inr ⟨hclosed, bound⟩) hbound rfl)

section Terms

variable (hbracketed : ∀ b, puts b → Bracketed b)
include hbracketed

/-- A front of the new text was kept if in it no term starts behind anything but a word. -/
theorem kept (hterms : ∀ rule ∈ rules, IsTerm rule.1) {q : Text} (hopen : '<' ∉ q)
    (hstart : ∀ x y, q = x ++ y → y ≠ [] → ∀ rule ∈ rules, rule.2 <+: y ∨ y <+: rule.2 →
      startsWord (x.reverse ++ before) = true)
    (h : Reworded rules puts before t (q ++ s)) :
    ∃ t', t = q ++ t' ∧ Reworded rules puts (q.reverse ++ before) t' s := by
  induction q generalizing before t with
  | nil => exact ⟨t, rfl, h⟩
  | cons c q ih =>
    generalize hs : c :: q ++ s = u at h
    cases h with
    | nil => cases hs
    | keep d rest =>
      obtain ⟨rfl, rfl⟩ := List.cons.inj hs
      obtain ⟨t', rfl, ht⟩ := ih (fun hm => hopen (.tail _ hm)) (fun x y hq hy rule hr hpre => by
        simpa using hstart (c :: x) y (by rw [hq]; rfl) hy rule hr hpre) rest
      exact ⟨t', rfl, by simpa using ht⟩
    | @exchange _ t₁ s₁ old new rule bound rest =>
      -- The new term starts here, behind a word, where the old one was not found.
      have hpre := List.prefix_or_prefix_of_prefix (List.prefix_append new s₁)
        (hs ▸ List.prefix_append (c :: q) s)
      have hword : startsWord before = true :=
        hstart [] (c :: q) rfl (List.cons_ne_nil c q) _ rule hpre
      rw [(hterms _ rule).atWordBoundary_append, hword] at bound
      cases bound
    | put allowed bound rest =>
      exact absurd ((hbracketed _ allowed).head_eq hs.symm ▸ List.mem_cons_self) hopen

/-- Exchanging a term in the new text is rewording the old one. -/
theorem exchangeWord {word other made u : Text}
    (hrules : ∀ rule ∈ rules, IsExchange rule.1 rule.2) (hrule : (word, other) ∈ rules)
    (hheads : ∀ rule ∈ rules, rule.2.head? ≠ word.head?)
    (hfresh : ∀ b, puts b → ∀ c ∈ b, word.head? ≠ some c)
    (h : Reworded rules puts before t u) (hnear : Near made before t) :
    Reworded rules puts before t (replaceFrom (wordSite word) (fun _ _ => other) made u) := by
  have hword : IsTerm word := (hrules _ hrule).old
  -- The search goes through the new text; `Near` tells what it sees behind it of the old one.
  induction hlen : u.length using Nat.strongRecOn generalizing before made t u with
  | ind len ih =>
    by_cases hsite : startsWord made = false ∧ word <+: u
    · obtain ⟨hmade, u, rfl⟩ := hsite
      have hfound := hword.wordSite_eq_some.2 ⟨rfl, hmade, List.prefix_append word u⟩
      obtain ⟨t, rfl, hrest⟩ := h.kept hbracketed (fun rule hr => (hrules rule hr).old)
        hword.noOpen fun x y hxy hy rule hr hpre =>
          hword.startsWord_of_compatible
            (unlike_of_head? (hrules rule hr).new.ne_nil hword.ne_nil (hheads rule hr)) hxy hy hpre _
      have hbound : atWordBoundary before (word ++ t) = true := by
        refine hnear.bound (y := word ++ t) rfl ?_
        rw [hword.atWordBoundary_append, hmade]
        rfl
      rw [replaceFrom_site hword.finds_wordSite _ hfound]
      refine .exchange hrule hbound (ih _ ?_ hrest (.append _ _ hword.ne_nil _) rfl)
      simp [← hlen, List.length_pos_iff.2 hword.ne_nil]
    · have hnone := hword.wordSite_eq_none fun hmade hpre => hsite ⟨hmade, hpre⟩
      cases h with
      | nil =>
        rw [replaceFrom_nil hword.finds_wordSite]
        exact .nil
      | @keep _ t u c rest =>
        rw [replaceFrom_plain _ hnone]
        exact .keep c (ih _ (by simp [← hlen]) rest (.append _ _ (List.cons_ne_nil c []) _) rfl)
      | @exchange _ t u old new rule bound rest =>
        have hx := hrules _ rule
        rw [replaceFrom_run _ fun x c y hnew =>
          hx.new.wordSite_within hword (hheads _ rule).symm hnew made u]
        refine .exchange rule bound
          (ih _ ?_ rest (.inl (startsWord_reverse_append hx.old hx.new hx.ends made before)) rfl)
        simp [← hlen, List.length_pos_iff.2 hx.new.ne_nil]
      | @put _ t u b allowed bound rest =>
        have hb := hbracketed b allowed
        rw [replaceFrom_run _ fun x c y hxy =>
          hword.wordSite_foreign (hfresh b allowed c (by simp [hxy])) _ _]
        refine .put allowed bound (ih _ ?_ rest (.inr ⟨hb.startsWord_reverse made, bound⟩) rfl)
        simp [← hlen, List.length_pos_iff.2 hb.ne_nil]

end Terms

/-! ## Lines -/

theorem eq_nil (hterms : ∀ rule ∈ rules, IsTerm rule.1) (hbefore : startsWord before = false)
    (h : Reworded rules puts before [] s) : s = [] := by
  generalize ht : ([] : Text) = t at h
  cases h with
  | nil => rfl
  | keep => cases ht
  | exchange rule => exact absurd (List.append_eq_nil_iff.1 ht.symm).1 (hterms _ rule).ne_nil
  | put allowed bound rest =>
    subst ht
    rw [atWordBoundary_iff, hbefore] at bound
    exact absurd rfl bound

section Feeds

variable (hterms : ∀ rule ∈ rules, IsTerm rule.1 ∧ IsTerm rule.2)
include hterms

theorem ne_nil (hbracketed : ∀ b, puts b → Bracketed b) (h : Reworded rules puts before t s)
    (ht : t ≠ []) : s ≠ [] := by
  cases h with
  | nil => exact absurd rfl ht
  | keep => exact List.cons_ne_nil _ _
  | exchange rule => exact List.append_ne_nil_of_left_ne_nil (hterms _ rule).2.ne_nil _
  | put allowed => exact List.append_ne_nil_of_left_ne_nil (hbracketed _ allowed).ne_nil _

variable (hputs : ∀ b, puts b → '\n' ∉ b)
include hputs

theorem notMem_feed (h : Reworded rules puts before t s) (ht : '\n' ∉ t) : '\n' ∉ s := by
  induction h with
  | nil => exact ht
  | keep c _ ih =>
    rw [List.mem_cons, not_or] at ht ⊢
    exact ⟨ht.1, ih ht.2⟩
  | exchange rule _ _ ih =>
    exact List.not_mem_append (hterms _ rule).2.noFeed
      (ih fun hm => ht (List.mem_append_right _ hm))
  | put allowed _ _ ih => exact List.not_mem_append (hputs _ allowed) (ih ht)

/-- A line and what follows it are reworded one after the other. -/
theorem line {a : Text} (ha : '\n' ∉ a) (h : Reworded rules puts before (a ++ '\n' :: t) s) :
    ∃ a' s', s = a' ++ '\n' :: s' ∧ '\n' ∉ a' ∧
      Reworded rules puts before (a ++ ['\n']) (a' ++ ['\n']) ∧
      Reworded rules puts ('\n' :: (a.reverse ++ before)) t s' := by
  generalize hu : a ++ '\n' :: t = u at h
  induction h generalizing a with
  | nil => simp at hu
  | @keep before u s c rest ih =>
    cases a with
    | nil =>
      obtain ⟨rfl, rfl⟩ := List.cons.inj hu
      exact ⟨[], s, rfl, by simp, .keep _ .nil, rest⟩
    | cons d a =>
      obtain ⟨rfl, rfl⟩ := List.cons.inj hu
      obtain ⟨hd, ha⟩ := not_or.1 fun hm => ha (List.mem_cons.2 hm)
      obtain ⟨a', s', rfl, ha', hline, hrest⟩ := ih ha rfl
      exact ⟨d :: a', s', rfl, List.not_mem_cons_of_ne_of_not_mem hd ha', .keep d hline,
        by simpa using hrest⟩
  | @exchange before u s old new rule bound rest ih =>
    obtain ⟨a, rfl, rfl⟩ := exists_line_of_notMem (hterms _ rule).1.noFeed hu
    obtain ⟨a', s', rfl, ha', hline, hrest⟩ := ih (fun hm => ha (List.mem_append_right _ hm)) rfl
    rw [(hterms _ rule).1.atWordBoundary_append] at bound
    rw [← (hterms _ rule).1.atWordBoundary_append before (a ++ ['\n'])] at bound
    refine ⟨new ++ a', s', by simp, List.not_mem_append (hterms _ rule).2.noFeed ha', ?_,
      by simpa using hrest⟩
    rw [List.append_assoc, List.append_assoc]
    exact .exchange rule bound hline
  | @put before u s b allowed bound rest ih =>
    subst hu
    obtain ⟨a', s', rfl, ha', hline, hrest⟩ := ih ha rfl
    have hsame : startsWord (a ++ '\n' :: t) = startsWord (a ++ ['\n']) := by cases a <;> rfl
    rw [atWordBoundary_iff, hsame, ← atWordBoundary_iff] at bound
    refine ⟨b ++ a', s', by simp, List.not_mem_append (hputs _ allowed) ha', ?_, hrest⟩
    rw [List.append_assoc]
    exact .put allowed bound hline

/-- **Rewording keeps lines:** each line is reworded, and a text that ends with a line feed still
does. -/
theorem lines (hbracketed : ∀ b, puts b → Bracketed b) (hbefore : startsWord before = false)
    (h : Reworded rules puts before t s) :
    List.Forall₂ (fun l l' => ∃ before, Reworded rules puts before l l') (physicalLines t)
      (physicalLines s) ∧ (Closed t → Closed s) := by
  induction t using lines_induction generalizing before s with
  | nil =>
    rw [h.eq_nil (fun rule hr => (hterms rule hr).1) hbefore]
    exact ⟨.nil, id⟩
  | last a ha hne =>
    have hs := h.notMem_feed hterms hputs ha
    rw [physicalLines_of_notMem ha hne,
      physicalLines_of_notMem hs (h.ne_nil hterms hbracketed hne)]
    exact ⟨.cons ⟨before, h⟩ .nil, fun hclosed => absurd hclosed (not_closed_of_notMem ha hne)⟩
  | line a t ha ih =>
    obtain ⟨a', s, rfl, ha', hline, hrest⟩ := h.line hterms hputs ha
    have hfeed : startsWord ('\n' :: (a.reverse ++ before)) = false :=
      show isWordChar '\n' = false by decide
    obtain ⟨hlines, hclosed⟩ := ih hfeed hrest
    rw [physicalLines_append ha, physicalLines_append ha', closed_append_feed, closed_append_feed]
    exact ⟨.cons ⟨before, hline⟩ hlines, hclosed⟩

end Feeds

end Reworded

/-! ## What does not occur any more -/

section Exchanging

variable {word other q made before t : Text} (hword : IsTerm word) (hnew : IsTerm other) (hq : IsTerm q)
  (hunlike : Unlike other q)
include hword hq hunlike

omit hnew in
/-- A front of the text with terms exchanged that is unlike the new term was there before. -/
theorem prefix_of_replaceFrom (h : q <+: replaceFrom (wordSite word) (fun _ _ => other) before t) :
    q <+: t := by
  -- `x` has been found in the old text, and `y` is to come.
  have hkept : ∀ x y t, q = x ++ y →
      y <+: replaceFrom (wordSite word) (fun _ _ => other) (x.reverse ++ before) t → y <+: t := by
    intro x y
    induction y generalizing x with
    | nil => exact fun t _ _ => List.nil_prefix
    | cons c y ih =>
      intro t hxy hpre
      by_cases hsite : startsWord (x.reverse ++ before) = false ∧ word <+: t
      · -- The new term would start within `q`.
        obtain ⟨hbefore, t, rfl⟩ := hsite
        have hfound := hword.wordSite_eq_some.2 ⟨rfl, hbefore, List.prefix_append word t⟩
        rw [replaceFrom_site hword.finds_wordSite _ hfound] at hpre
        have hcompatible := List.prefix_or_prefix_of_prefix (List.prefix_append other _) hpre
        rw [hq.startsWord_of_compatible hunlike hxy (List.cons_ne_nil c y) hcompatible] at hbefore
        cases hbefore
      · have hnone := hword.wordSite_eq_none fun hbefore hpre => hsite ⟨hbefore, hpre⟩
        cases t with
        | nil =>
          rw [replaceFrom_nil hword.finds_wordSite] at hpre
          exact hpre
        | cons d t =>
          rw [replaceFrom_plain _ hnone, List.cons_prefix_cons] at hpre
          obtain ⟨rfl, hpre⟩ := hpre
          have hmore := ih (x ++ [c]) t (by simp [hxy]) (by simpa using hpre)
          exact List.cons_prefix_cons.2 ⟨rfl, hmore⟩
  exact hkept [] q t rfl h

include hnew

/-- **Exchanging a term for one that ends alike leaves none of it,** and it leaves none of another term
that was not there before. -/
theorem lacks_replaceFrom (hends : startsWord word.reverse = startsWord other.reverse)
    (hsame : startsWord made = startsWord before) (hold : q = word ∨ Lacks q before t) :
    Lacks q made (replaceFrom (wordSite word) (fun _ _ => other) before t) := by
  induction hlen : t.length using Nat.strongRecOn generalizing made before t with
  | ind len ih =>
    by_cases hsite : startsWord before = false ∧ word <+: t
    · obtain ⟨hbefore, t, rfl⟩ := hsite
      have hfound := hword.wordSite_eq_some.2 ⟨rfl, hbefore, List.prefix_append word t⟩
      rw [replaceFrom_site hword.finds_wordSite _ hfound]
      refine hq.lacks_append hnew hunlike (ih t.length ?_
        (startsWord_reverse_append hword hnew hends made before) (hold.imp_right Lacks.behind) rfl)
      simp [← hlen, List.length_pos_iff.2 hword.ne_nil]
    · have hnone := hword.wordSite_eq_none fun hbefore hpre => hsite ⟨hbefore, hpre⟩
      cases t with
      | nil =>
        rw [replaceFrom_nil hword.finds_wordSite]
        exact hq.lacks_nil made
      | cons c t =>
        have hkept : q <+: replaceFrom (wordSite word) (fun _ _ => other) before (c :: t) →
            q <+: c :: t := prefix_of_replaceFrom hword hq hunlike
        rw [replaceFrom_plain _ hnone] at hkept ⊢
        refine hq.lacks_cons (fun hpre => ?_)
          (ih t.length (by simp [← hlen]) rfl (hold.imp_right (Lacks.behind (u := [c]))) rfl)
        -- A term that starts here did so before, and was not found.
        rw [hsame, ← Bool.not_eq_false]
        rcases hold with rfl | hlacks
        · exact fun hbefore => hsite ⟨hbefore, hkept hpre⟩
        · obtain ⟨rest, hrest⟩ := hkept hpre
          rw [Bool.not_eq_false]
          exact hq.lacks_iff.1 hlacks [] rest hrest.symm

end Exchanging

theorem lacks_exchangeWord {word other q t : Text} (hx : IsExchange word other) (hq : IsTerm q)
    (hhead : other.head? ≠ q.head?) (hold : q = word ∨ Lacks q [] t) :
    Lacks q [] (exchangeWord word other t) :=
  lacks_replaceFrom hx.old hx.new hq (unlike_of_head? hx.new.ne_nil hq.ne_nil hhead) hx.ends rfl hold

end Multidialect.Text
