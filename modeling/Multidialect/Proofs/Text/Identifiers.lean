import Multidialect.Proofs.Text.Characters
import Multidialect.Proofs.Text.Sites
import Mathlib.Data.List.Basic

/-! # Exchanging an identifier

A rule may exchange a name wherever it stands as a whole identifier and its surroundings ask for it
(`wholeSite`). What is put in its place here is a word in quotes, so it joins no identifier and holds
no operand of its own.

* `replaceFrom_eq_exchange`: a search whose sites cover more than the name exchanges the name.
* `exchange_exchange`: one exchange after another is one exchange.
* `exchange_eq_iff`: two exchanges agree exactly if they agree on each occurrence.
-/

namespace Multidialect.Text

/-- Whether no identifier goes on in a text. -/
def isApart (t : Text) : Bool := !t.head?.any isIdentifierChar

/-- A text that can be a whole identifier. -/
structure IsWhole (name : Text) : Prop where
  ne_nil : name ≠ []
  identifier : ∀ c ∈ name, isIdentifierChar c = true

/-- A text that holds no part of an identifier. -/
def IsForeign (t : Text) : Prop := ∀ c ∈ t, isIdentifierChar c = false

theorem isApart_of_foreign {c : Char} {t : Text} (h : isIdentifierChar c = false) :
    isApart (c :: t) = true := by
  simp [isApart, h]

theorem isApart_cons {c : Char} {t : Text} : isApart (c :: t) = !isIdentifierChar c := by
  simp [isApart]

theorem isForeign_of_blank {ws : Text} (h : ∀ c ∈ ws, isBlank c = true) : IsForeign ws := by
  intro c hc
  have hdollar : c ≠ '$' := ne_of_isBlank (h c hc) (by decide)
  simp [isIdentifierChar, Unicode.isIdentifierChar, Unicode.not_isWordChar_of_isBlank (h c hc),
    hdollar]

theorem IsForeign.append {u v : Text} (hu : IsForeign u) (hv : IsForeign v) :
    IsForeign (u ++ v) :=
  fun c hc => (List.mem_append.1 hc).elim (hu c) (hv c)

namespace IsWhole

variable {name : Text} (hname : IsWhole name)
include hname

theorem not_isApart (rest : Text) : isApart (name ++ rest) = false := by
  obtain ⟨hne, hall⟩ := hname
  cases name with
  | nil => exact absurd rfl hne
  | cons c name => simp [isApart, hall c (.head _)]

theorem reverse : IsWhole name.reverse :=
  ⟨by simpa using hname.ne_nil, fun c hc => hname.identifier c (List.mem_reverse.1 hc)⟩

/-- A foreign character starts no name. -/
theorem ne_append {c : Char} (hc : isIdentifierChar c = false) (t rest : Text) :
    c :: t ≠ name ++ rest := by
  intro h
  have hapart := hname.not_isApart rest
  rw [← h, isApart_of_foreign hc] at hapart
  cases hapart

/-- A name that follows a foreign text does not start in it. -/
theorem eq_nil_of_foreign {u v rest : Text} (hu : IsForeign u) (h : u ++ v = name ++ rest) :
    u = [] := by
  cases u with
  | nil => rfl
  | cons c u => exact absurd h (hname.ne_append (hu c (.head _)) _ _)

/-- What stands before a name is told by the name, if it is foreign. -/
theorem foreign_inj {u u' rest rest' : Text} (hu : IsForeign u) (hu' : IsForeign u')
    (h : u ++ (name ++ rest) = u' ++ (name ++ rest')) : u = u' := by
  have hstop : ∀ rest, (name ++ rest).head?.any (fun c => !isIdentifierChar c) = false := by
    intro rest
    obtain ⟨c, more, hc⟩ := List.exists_cons_of_ne_nil hname.ne_nil
    simp [hc, hname.identifier c (by simp [hc])]
  exact (run_unique h (fun c hc => by simp [hu c hc]) (hstop rest)
    (fun c hc => by simp [hu' c hc]) (hstop rest')).1

/-- A name behind a foreign text has come to its end where a foreign character follows an
identifier's. -/
theorem length_le_of_stop {f u t rest : Text} {c d : Char} (hf : IsForeign f)
    (hc : isIdentifierChar c = true) (hd : isIdentifierChar d = false)
    (h : u ++ c :: d :: t = f ++ (name ++ rest)) : (f ++ name).length ≤ u.length + 1 := by
  refine Nat.le_of_not_lt fun hlt => ?_
  rw [List.length_append] at hlt
  rcases Nat.lt_or_ge u.length f.length with hin | hin
  · have hget := congrArg (·[u.length]?) h
    simp only [List.getElem?_append_left hin, List.getElem?_append_right (Nat.le_refl _),
      Nat.sub_self, List.getElem?_cons_zero] at hget
    rw [hf c (List.mem_of_getElem? hget.symm)] at hc
    cases hc
  · have hget := congrArg (·[u.length + 1]?) h
    simp only [List.getElem?_append_right (Nat.le_succ_of_le hin),
      List.getElem?_append_right (Nat.le_add_right u.length 1), Nat.add_sub_cancel_left,
      List.getElem?_cons_succ, List.getElem?_cons_zero,
      List.getElem?_append_left (show u.length + 1 - f.length < name.length by omega)] at hget
    rw [hname.identifier d (List.mem_of_getElem? hget.symm)] at hd
    cases hd

end IsWhole

/-- Of the texts `u` and `v`, of which the first goes on as an identifier and the second does not,
each is told by the other. -/
theorem append_inj_of_isApart {u v u' v' : Text} (h : u ++ v = u' ++ v')
    (hu : ∀ c ∈ u, isIdentifierChar c = true) (hv : isApart v = true)
    (hu' : ∀ c ∈ u', isIdentifierChar c = true) (hv' : isApart v' = true) : u = u' ∧ v = v' :=
  run_unique h hu (by simpa [isApart] using hv) hu' (by simpa [isApart] using hv')

/-! ## Occurrences -/

variable {name new : Text} {P : Text → Text → Bool}

/-- The name as a whole identifier, where `P` holds of what stands before and behind it. -/
def wholeSite (name : Text) (P : Text → Text → Bool) : Matcher Unit := fun before after =>
  match stripStart? name after with
  | some rest =>
    if isApart before && isApart rest && P before rest then some ((), name.length) else none
  | none => none

theorem wholeSite_eq_some {before after : Text} {found : Unit × Nat} :
    wholeSite name P before after = some found ↔ found = ((), name.length) ∧
      ∃ rest, after = name ++ rest ∧ isApart before = true ∧ isApart rest = true ∧
        P before rest = true := by
  unfold wholeSite
  split
  · rename_i rest hrest
    obtain rfl := isPrefixOf?_eq_some.1 hrest
    split
    · rename_i h
      simp only [Bool.and_eq_true] at h
      constructor
      · intro hfound
        exact ⟨(Option.some.inj hfound).symm, rest, rfl, h.1.1, h.1.2, h.2⟩
      · rintro ⟨rfl, -⟩
        rfl
    · rename_i h
      simp only [Bool.and_eq_true] at h
      constructor
      · intro hfound
        cases hfound
      · rintro ⟨-, rest', heq, hbefore, hrest', hP⟩
        obtain rfl := List.append_cancel_left heq
        exact absurd ⟨⟨hbefore, hrest'⟩, hP⟩ h
  · rename_i hnone
    constructor
    · intro hfound
      cases hfound
    · rintro ⟨-, rest, rfl, -⟩
      rw [stripStart?, isPrefixOf?_eq_some.2 rfl] at hnone
      cases hnone

theorem wholeSite_append {before rest : Text} (hbefore : isApart before = true)
    (hrest : isApart rest = true) (hP : P before rest = true) :
    wholeSite name P before (name ++ rest) = some ((), name.length) :=
  wholeSite_eq_some.2 ⟨rfl, rest, rfl, hbefore, hrest, hP⟩

theorem wholeSite_eq_none {before after : Text}
    (h : ∀ rest, after = name ++ rest → isApart before = true → isApart rest = true →
      P before rest = false) : wholeSite name P before after = none := by
  refine Option.eq_none_iff_forall_ne_some.2 fun found hfound => ?_
  obtain ⟨-, rest, hafter, hbefore, hrest, hP⟩ := wholeSite_eq_some.1 hfound
  rw [h rest hafter hbefore hrest] at hP
  cases hP

theorem of_wholeSite_eq_none {before rest : Text}
    (h : wholeSite name P before (name ++ rest) = none) (hbefore : isApart before = true)
    (hrest : isApart rest = true) : P before rest = false := by
  refine Bool.eq_false_iff.2 fun hP => ?_
  rw [wholeSite_append hbefore hrest hP] at h
  cases h

theorem wholeSite_inside {before after : Text} (h : isApart before = false) :
    wholeSite name P before after = none :=
  wholeSite_eq_none fun _ _ hbefore => by rw [h] at hbefore; cases hbefore

theorem wholeSite_foreign (hname : IsWhole name) {before cs : Text} {c : Char}
    (hc : isIdentifierChar c = false) : wholeSite name P before (c :: cs) = none :=
  wholeSite_eq_none fun _ hafter => absurd hafter (hname.ne_append hc _ _)

theorem finds_wholeSite (hname : IsWhole name) (P : Text → Text → Bool) :
    Finds (wholeSite name P) fun _ covered => covered ≠ [] := by
  intro before after a n h
  obtain ⟨hfound, rest, rfl, -⟩ := wholeSite_eq_some.1 h
  obtain ⟨-, rfl⟩ := Prod.mk.inj hfound
  rw [List.take_left]
  exact hname.ne_nil

/-- The text that follows `before`, with `new` for the name where `P` holds. -/
def exchange (name new : Text) (P : Text → Text → Bool) : (before t : Text) → Text :=
  replaceFrom (wholeSite name P) fun _ _ => new

section Exchange

variable (hname : IsWhole name)
include hname

theorem exchange_nil (before : Text) : exchange name new P before [] = [] :=
  replaceFrom_nil (finds_wholeSite hname P) _ before

omit hname in
theorem exchange_plain {before cs : Text} {c : Char}
    (h : wholeSite name P before (c :: cs) = none) :
    exchange name new P before (c :: cs) = c :: exchange name new P (c :: before) cs :=
  replaceFrom_plain _ h

theorem exchange_site {before rest : Text}
    (h : wholeSite name P before (name ++ rest) = some ((), name.length)) :
    exchange name new P before (name ++ rest) =
      new ++ exchange name new P (name.reverse ++ before) rest :=
  replaceFrom_site (finds_wholeSite hname P) _ h

omit hname in
/-- Where nothing is found, the characters stay. -/
theorem exchange_run {before u t : Text}
    (h : ∀ v c w, u = v ++ c :: w →
      wholeSite name P (v.reverse ++ before) (c :: (w ++ t)) = none) :
    exchange name new P before (u ++ t) = u ++ exchange name new P (u.reverse ++ before) t :=
  replaceFrom_run _ h

theorem exchange_foreign {before u t : Text} (hu : IsForeign u) :
    exchange name new P before (u ++ t) = u ++ exchange name new P (u.reverse ++ before) t :=
  exchange_run fun v c w h => wholeSite_foreign hname (hu c (by simp [h]))

omit hname in
/-- An identifier that is not exchanged stays. -/
theorem exchange_identifier {before u t : Text} (hu : ∀ c ∈ u, isIdentifierChar c = true)
    (hfirst : wholeSite name P before (u ++ t) = none) :
    exchange name new P before (u ++ t) = u ++ exchange name new P (u.reverse ++ before) t := by
  refine exchange_run fun v c w h => ?_
  rcases List.eq_nil_or_concat v with rfl | ⟨v, d, rfl⟩
  · simpa [h] using hfirst
  · refine wholeSite_inside ?_
    have hd := hu d (by simp [h])
    simp [isApart, hd]

end Exchange

/-! ## A search that covers more than the name -/

/-- What a search needs in order to exchange the name at the occurrences that `P` asks for: `J`
relates what stands before the place that the search has come to and what follows it. -/
structure Exchanges (name : Text) (P : Text → Text → Bool) (m : Matcher (Text × Text))
    (J : Text → Text → Prop) : Prop where
  plain : ∀ {before c cs}, J before (c :: cs) → m before (c :: cs) = none →
    wholeSite name P before (c :: cs) = none ∧ J (c :: before) cs
  site : ∀ {before t a n}, J before t → m before t = some (a, n) →
    ∃ rest, t = a.1 ++ (name ++ (a.2 ++ rest)) ∧ n = (a.1 ++ (name ++ a.2)).length ∧
      IsForeign a.1 ∧ IsForeign a.2 ∧
      wholeSite name P (a.1.reverse ++ before) (name ++ (a.2 ++ rest)) = some ((), name.length) ∧
      J ((a.1 ++ (name ++ a.2)).reverse ++ before) rest

theorem replaceFrom_eq_exchange (hname : IsWhole name) {m : Matcher (Text × Text)}
    {J : Text → Text → Prop} (h : Exchanges name P m J) {before t : Text} (hJ : J before t)
    (hm : Finds m fun _ covered => covered ≠ []) :
    replaceFrom m (fun a _ => a.1 ++ new ++ a.2) before t = exchange name new P before t := by
  induction hlen : t.length using Nat.strongRecOn generalizing before t with
  | ind len ih =>
    cases t with
    | nil => rw [replaceFrom_nil hm, exchange_nil hname]
    | cons c cs =>
      cases hfound : m before (c :: cs) with
      | none =>
        obtain ⟨hnone, hnext⟩ := h.plain hJ hfound
        rw [replaceFrom_plain _ hfound, exchange_plain hnone,
          ih cs.length (by rw [← hlen]; exact Nat.lt_succ_self _) hnext rfl]
      | some found =>
        obtain ⟨a, n⟩ := found
        obtain ⟨rest, ht, rfl, hlead, htail, hsite, hnext⟩ := h.site hJ hfound
        have hcovered : c :: cs = (a.1 ++ (name ++ a.2)) ++ rest := by simpa using ht
        have hlt : rest.length < len := by
          have := List.length_pos_iff.2 hname.ne_nil
          rw [← hlen, hcovered]
          simp only [List.length_append]
          omega
        have hexchange : exchange name new P before (c :: cs) = a.1 ++ (new ++ (a.2 ++
            exchange name new P ((a.1 ++ (name ++ a.2)).reverse ++ before) rest)) := by
          rw [ht, exchange_foreign hname hlead, exchange_site hname hsite,
            exchange_foreign hname htail]
          simp
        rw [hexchange, hcovered]
        rw [hcovered] at hfound
        rw [replaceFrom_site hm _ hfound, ih _ hlt hnext rfl]
        simp

/-! ## One exchange after another -/

/-- A text between single quotes. -/
def between (word : Text) : Text := '\'' :: (word ++ ['\''])

theorem isIdentifierChar_quote : isIdentifierChar '\'' = false := by decide

section Quoted

variable {word : Text} (hname : IsWhole name)
include hname

theorem quote_notMem : '\'' ∉ name := fun h => by
  have hquote := hname.identifier _ h
  rw [isIdentifierChar_quote] at hquote
  cases hquote

omit hname in
theorem between_append (t : Text) : between word ++ t = '\'' :: (word ++ '\'' :: t) := by
  simp [between]

/-- What an exchange leaves, without a quote, was there. -/
theorem eq_append_of_exchange {before t p rest : Text} (hp : '\'' ∉ p)
    (h : exchange name (between word) P before t = p ++ rest) :
    ∃ rest', t = p ++ rest' ∧
      rest = exchange name (between word) P (p.reverse ++ before) rest' := by
  induction p generalizing before t with
  | nil => exact ⟨t, rfl, h.symm⟩
  | cons c p ih =>
    obtain ⟨hc, hrun⟩ := not_or.1 (mt List.mem_cons.2 hp)
    cases t with
    | nil =>
      rw [exchange_nil hname] at h
      cases h
    | cons d t =>
      cases hsite : wholeSite name P before (d :: t) with
      | some found =>
        obtain ⟨rfl, more, hmore, -⟩ := wholeSite_eq_some.1 hsite
        rw [hmore] at hsite h
        rw [exchange_site hname hsite, between_append] at h
        exact absurd (List.cons.inj h).1 hc
      | none =>
        rw [exchange_plain hsite] at h
        obtain ⟨rfl, hmore⟩ := List.cons.inj h
        obtain ⟨rest', rfl, hrest⟩ := ih hrun hmore
        exact ⟨rest', rfl, by simpa using hrest⟩

/-- An exchange leaves alone whether an identifier goes on. -/
theorem isApart_exchange {before rest : Text} (hbefore : isApart before = false) :
    isApart (exchange name (between word) P before rest) = isApart rest := by
  cases rest with
  | nil => rw [exchange_nil hname]
  | cons c rest =>
    rw [exchange_plain (wholeSite_inside hbefore), isApart_cons, isApart_cons]

end Quoted

/-- What stands before a place, what follows it, and what the exchange has made of the former. -/
inductive Exchanged (name new : Text) (P : Text → Text → Bool) : Text → Text → Text → Prop
  | start (t : Text) : Exchanged name new P [] t []
  | keep {before cs made : Text} {c : Char} : Exchanged name new P before (c :: cs) made →
      wholeSite name P before (c :: cs) = none → Exchanged name new P (c :: before) cs (c :: made)
  | put {before rest made : Text} : Exchanged name new P before (name ++ rest) made →
      wholeSite name P before (name ++ rest) = some ((), name.length) →
      Exchanged name new P (name.reverse ++ before) rest (new.reverse ++ made)

namespace Exchanged

section Quoted

variable {word before after made : Text}

omit new in
theorem between_reverse : (between word).reverse = '\'' :: (word.reverse ++ ['\'']) := by
  simp [between]

/-- What was made, without a quote, was there, and nothing was found where it starts. -/
theorem eq_append {p made' : Text} (hp : '\'' ∉ p)
    (h : Exchanged name (between word) P before after (p ++ made')) :
    ∃ before', before = p ++ before' ∧
      Exchanged name (between word) P before' (p.reverse ++ after) made' ∧
      (p ≠ [] → wholeSite name P before' (p.reverse ++ after) = none) := by
  induction p generalizing before after with
  | nil => exact ⟨before, rfl, h, fun hne => absurd rfl hne⟩
  | cons c p ih =>
    obtain ⟨hc, hrun⟩ := not_or.1 (mt List.mem_cons.2 hp)
    rw [List.cons_append] at h
    generalize hmade : c :: (p ++ made') = made at h
    cases h with
    | start => cases hmade
    | keep h hnone =>
      obtain ⟨rfl, rfl⟩ := List.cons.inj hmade
      obtain ⟨before', rfl, hrest, hfirst⟩ := ih hrun h
      refine ⟨before', rfl, by simpa using hrest, fun _ => ?_⟩
      cases p with
      | nil => exact hnone
      | cons d p => simpa using hfirst (List.cons_ne_nil d p)
    | put _ _ =>
      rw [between_reverse] at hmade
      exact absurd (List.cons.inj hmade).1.symm hc

/-- A foreign text is left as it is. -/
theorem made_append (hname : IsWhole name) {p before' : Text} (hp : IsForeign p)
    (h : Exchanged name new P (p ++ before') after made) :
    ∃ made', made = p ++ made' ∧ Exchanged name new P before' (p.reverse ++ after) made' := by
  induction p generalizing after made with
  | nil => exact ⟨made, rfl, h⟩
  | cons c p ih =>
    rw [List.cons_append] at h
    generalize hbefore : c :: (p ++ before') = before at h
    cases h with
    | start => cases hbefore
    | keep h _ =>
      obtain ⟨rfl, rfl⟩ := List.cons.inj hbefore
      obtain ⟨made', rfl, hrest⟩ := ih (fun d hd => hp d (.tail _ hd)) h
      exact ⟨made', rfl, by simpa using hrest⟩
    | put _ _ => exact absurd hbefore (hname.reverse.ne_append (hp c (.head _)) _ _)

/-- An identifier that is not exchanged is left as it is. -/
theorem made_identifier (hname : IsWhole name) {p before' : Text}
    (hp : ∀ c ∈ p, isIdentifierChar c = true) (hbefore' : isApart before' = true)
    (hnone : wholeSite name P before' (p.reverse ++ after) = none)
    (h : Exchanged name new P (p ++ before') after made) :
    ∃ made', made = p ++ made' ∧ Exchanged name new P before' (p.reverse ++ after) made' := by
  induction p generalizing after made with
  | nil => exact ⟨made, rfl, h⟩
  | cons c p ih =>
    rw [List.cons_append] at h
    generalize hbefore : c :: (p ++ before') = before at h
    cases h with
    | start => cases hbefore
    | keep h _ =>
      obtain ⟨rfl, rfl⟩ := List.cons.inj hbefore
      obtain ⟨made', rfl, hrest⟩ := ih (fun d hd => hp d (.tail _ hd)) (by simpa using hnone) h
      exact ⟨made', rfl, by simpa using hrest⟩
    | put _ hsite =>
      obtain ⟨-, rest, -, hstart, -⟩ := wholeSite_eq_some.1 hsite
      rw [← List.cons_append] at hbefore
      obtain ⟨hp', rfl⟩ := append_inj_of_isApart hbefore hp hbefore' hname.reverse.identifier hstart
      rw [hp', List.reverse_reverse, hsite] at hnone
      cases hnone

/-- Where an identifier goes on, one went on in the text. -/
theorem isApart_made (h : Exchanged name new P before after made)
    (hafter : isApart after = false) : isApart made = isApart before := by
  cases h with
  | start => rfl
  | keep => rw [isApart_cons, isApart_cons]
  | put _ hsite =>
    obtain ⟨-, rest, hrest, -, hrest', -⟩ := wholeSite_eq_some.1 hsite
    rw [List.append_cancel_left hrest, hrest'] at hafter
    cases hafter

/-- What follows is passed over where nothing is found. -/
theorem keeps {u t : Text} (h : Exchanged name new P before (u ++ t) made)
    (hu : ∀ v c w, u = v ++ c :: w →
      wholeSite name P (v.reverse ++ before) (c :: (w ++ t)) = none) :
    Exchanged name new P (u.reverse ++ before) t (u.reverse ++ made) := by
  induction u generalizing before made with
  | nil => exact h
  | cons c u ih =>
    have hnext := Exchanged.keep h (hu [] c u rfl)
    simpa using ih hnext fun v d w huv => by simpa using hu (c :: v) d w (by rw [huv]; rfl)

end Quoted

end Exchanged

/-- What makes the exchange for `P₁` and then that for `P₂` the exchange for `P₃`. -/
structure Composes (name word : Text) (P₁ P₂ P₃ : Text → Text → Bool) : Prop where
  first : ∀ {before rest}, P₁ before rest = true → P₃ before rest = true
  second : ∀ {before rest made}, Exchanged name (between word) P₁ before (name ++ rest) made →
    isApart before = true → isApart rest = true → P₁ before rest = false →
    P₂ made (exchange name (between word) P₁ (name.reverse ++ before) rest) = P₃ before rest
  quote : ∀ made rest, P₂ ('\'' :: made) ('\'' :: rest) = false

section Composition

variable {word : Text} {P₁ P₂ P₃ : Text → Text → Bool} (hname : IsWhole name)
include hname

/-- What was put in is left alone, if nothing is asked for between quotes. -/
theorem exchange_between (hword : ∀ c ∈ word, isIdentifierChar c = true)
    (hquote : ∀ made rest, P ('\'' :: made) ('\'' :: rest) = false) (made rest : Text) :
    exchange name new P made (between word ++ rest) =
      between word ++ exchange name new P ((between word).reverse ++ made) rest := by
  have hfirst : wholeSite name P ('\'' :: made) (word ++ '\'' :: rest) = none := by
    refine wholeSite_eq_none fun rest' heq _ hrest' => ?_
    obtain ⟨-, rfl⟩ := append_inj_of_isApart heq hword (isApart_of_foreign isIdentifierChar_quote)
      hname.identifier hrest'
    exact hquote made rest
  rw [between_append, exchange_plain (wholeSite_foreign hname isIdentifierChar_quote),
    exchange_identifier hword hfirst,
    exchange_plain (wholeSite_foreign hname isIdentifierChar_quote), Exchanged.between_reverse]
  simp [between]

/-- **One exchange after another** is one exchange. -/
theorem exchange_exchange (hword : ∀ c ∈ word, isIdentifierChar c = true)
    (h : Composes name word P₁ P₂ P₃) {before t made : Text}
    (hmade : Exchanged name (between word) P₁ before t made) :
    exchange name (between word) P₂ made (exchange name (between word) P₁ before t) =
      exchange name (between word) P₃ before t := by
  induction hlen : t.length using Nat.strongRecOn generalizing before t made with
  | ind len ih =>
    cases t with
    | nil => rw [exchange_nil hname, exchange_nil hname, exchange_nil hname]
    | cons c cs =>
      have hshort : ∀ rest, c :: cs = name ++ rest → rest.length < len := by
        intro rest hrest
        have := List.length_pos_iff.2 hname.ne_nil
        rw [← hlen, hrest, List.length_append]
        omega
      cases hsite : wholeSite name P₁ before (c :: cs) with
      | some found =>
        obtain ⟨rfl, rest, hrest, hbefore, hapart, hP⟩ := wholeSite_eq_some.1 hsite
        have hlt := hshort rest hrest
        rw [hrest] at hsite hmade ⊢
        rw [exchange_site hname hsite, exchange_between hname hword h.quote,
          exchange_site hname (wholeSite_append hbefore hapart (h.first hP)),
          ih _ hlt (hmade.put hsite) rfl]
      | none =>
        cases hthird : wholeSite name P₃ before (c :: cs) with
        | some found =>
          -- The first exchange passes the name over, and the second one finds it.
          obtain ⟨rfl, rest, hrest, hbefore, hapart, hP⟩ := wholeSite_eq_some.1 hthird
          have hlt := hshort rest hrest
          rw [hrest] at hsite hmade hthird ⊢
          have hfirst := of_wholeSite_eq_none hsite hbefore hapart
          have hsecond := h.second hmade hbefore hapart hfirst
          have hmade' : isApart made = true := by
            rw [hmade.isApart_made (hname.not_isApart rest), hbefore]
          have hinside : isApart (name.reverse ++ before) = false := hname.reverse.not_isApart before
          have hexchange : isApart (exchange name (between word) P₁ (name.reverse ++ before) rest) =
              true := by rw [isApart_exchange hname hinside, hapart]
          have hkeeps := hmade.keeps fun v d w hv => by
            rcases List.eq_nil_or_concat v with rfl | ⟨v, e, rfl⟩
            · simpa [hv] using hsite
            · have he := hname.identifier e (by simp [hv])
              exact wholeSite_inside (by simp [isApart, he])
          rw [exchange_identifier hname.identifier hsite,
            exchange_site hname (wholeSite_append hmade' hexchange (hsecond.trans hP)),
            exchange_site hname hthird, ih _ hlt hkeeps rfl]
        | none =>
          have hsecond : wholeSite name P₂ made
              (c :: exchange name (between word) P₁ (c :: before) cs) = none := by
            rw [← exchange_plain hsite]
            refine wholeSite_eq_none fun rest hrest hmade' hapart => ?_
            obtain ⟨rest', hrest', rfl⟩ := eq_append_of_exchange hname (quote_notMem hname) hrest
            have hinside : isApart (name.reverse ++ before) = false :=
              hname.reverse.not_isApart before
            rw [isApart_exchange hname hinside] at hapart
            rw [hrest'] at hmade hsite hthird
            rw [hmade.isApart_made (hname.not_isApart rest')] at hmade'
            rw [h.second hmade hmade' hapart (of_wholeSite_eq_none hsite hmade' hapart)]
            exact of_wholeSite_eq_none hthird hmade' hapart
          rw [exchange_plain hsite, exchange_plain hsecond, exchange_plain hthird,
            ih cs.length (by rw [← hlen]; exact Nat.lt_succ_self _) (hmade.keep hsite) rfl]

/-- `P₁` and `P₂` agree on each occurrence of the name in the text that follows `before`. -/
def Agree (name : Text) (P₁ P₂ : Text → Text → Bool) (before t : Text) : Prop :=
  ∀ u rest, t = u ++ (name ++ rest) → isApart (u.reverse ++ before) = true →
    isApart rest = true → P₁ (u.reverse ++ before) rest = P₂ (u.reverse ++ before) rest

theorem agree_nil (before : Text) : Agree name P₁ P₂ before [] := by
  intro u rest h
  simp [hname.ne_nil] at h

omit hname in
theorem agree_cons {before cs : Text} {c : Char} : Agree name P₁ P₂ before (c :: cs) ↔
    (∀ rest, c :: cs = name ++ rest → isApart before = true → isApart rest = true →
      P₁ before rest = P₂ before rest) ∧ Agree name P₁ P₂ (c :: before) cs := by
  constructor
  · refine fun h => ⟨h [], fun u rest hu hbefore hapart => ?_⟩
    have hagree := h (c :: u) rest (by rw [hu]; rfl)
    simp only [List.reverse_cons, List.append_assoc, List.singleton_append] at hagree
    exact hagree hbefore hapart
  · rintro ⟨hhead, htail⟩ u rest hu hbefore hapart
    cases u with
    | nil => exact hhead rest hu hbefore hapart
    | cons d u =>
      obtain ⟨rfl, hcs⟩ := List.cons.inj hu
      simp only [List.reverse_cons, List.append_assoc, List.singleton_append] at hbefore ⊢
      exact htail u rest hcs hbefore hapart

theorem agree_name {before rest : Text} : Agree name P₁ P₂ before (name ++ rest) ↔
    (isApart before = true → isApart rest = true → P₁ before rest = P₂ before rest) ∧
      Agree name P₁ P₂ (name.reverse ++ before) rest := by
  constructor
  · refine fun h => ⟨h [] rest rfl, fun u rest' hu hbefore hapart => ?_⟩
    have hagree := h (name ++ u) rest' (by rw [hu]; simp)
    simp only [List.reverse_append, List.append_assoc] at hagree
    exact hagree hbefore hapart
  · rintro ⟨hhead, htail⟩ u rest' hu hbefore hapart
    rcases List.append_eq_append_iff.1 hu with ⟨more, rfl, hrest'⟩ | ⟨more, hu', hrest'⟩
    · have hagree := htail more rest' hrest'
      simp only [List.reverse_append, List.append_assoc] at hbefore ⊢
      exact hagree hbefore hapart
    · -- Inside the name no other occurrence starts.
      rcases List.eq_nil_or_concat u with rfl | ⟨u, d, rfl⟩
      · obtain rfl := List.append_cancel_left hu
        exact hhead hbefore hapart
      · have hd := hname.identifier d (by simp [hu'])
        simp [isApart, hd] at hbefore

/-- **Two exchanges**, of which one asks for more, are the same exactly if they agree on each
occurrence of the name. -/
theorem exchange_eq_iff (hmore : ∀ before rest, P₁ before rest = true → P₂ before rest = true)
    {before t : Text} : exchange name (between word) P₁ before t =
        exchange name (between word) P₂ before t ↔ Agree name P₁ P₂ before t := by
  induction hlen : t.length using Nat.strongRecOn generalizing before t with
  | ind len ih =>
    cases t with
    | nil =>
      rw [exchange_nil hname, exchange_nil hname]
      exact iff_of_true rfl (agree_nil hname before)
    | cons c cs =>
      cases hsecond : wholeSite name P₂ before (c :: cs) with
      | some found =>
        obtain ⟨rfl, rest, hrest, hbefore, hapart, hP⟩ := wholeSite_eq_some.1 hsecond
        have hlt : rest.length < len := by
          have := List.length_pos_iff.2 hname.ne_nil
          rw [← hlen, hrest, List.length_append]
          omega
        rw [hrest] at hsecond ⊢
        rw [agree_name hname]
        cases hfirst : P₁ before rest with
        | false =>
          -- Only the second one puts a quote here.
          have hnone : wholeSite name P₁ before (name ++ rest) = none :=
            wholeSite_eq_none fun rest' heq _ _ => by rw [← List.append_cancel_left heq, hfirst]
          rw [exchange_identifier hname.identifier hnone, exchange_site hname hsecond]
          refine iff_of_false (fun heq => ?_) fun hagree => ?_
          · rw [between_append] at heq
            exact hname.ne_append isIdentifierChar_quote _ _ heq.symm
          · have hsame := hagree.1 hbefore hapart
            rw [hP] at hsame
            cases hsame
        | true =>
          rw [exchange_site hname (wholeSite_append hbefore hapart hfirst),
            exchange_site hname hsecond, List.append_right_inj, ih _ hlt rfl,
            and_iff_right fun _ _ => hP.symm]
      | none =>
        have hfirst : wholeSite name P₁ before (c :: cs) = none := by
          refine Option.eq_none_iff_forall_ne_some.2 fun found hfound => ?_
          obtain ⟨-, rest, hrest, hbefore, hapart, hP⟩ := wholeSite_eq_some.1 hfound
          rw [hrest, wholeSite_append hbefore hapart (hmore _ _ hP)] at hsecond
          cases hsecond
        have hhead : ∀ rest, c :: cs = name ++ rest → isApart before = true →
            isApart rest = true → P₁ before rest = P₂ before rest := by
          intro rest hrest hbefore hapart
          rw [hrest] at hfirst hsecond
          exact (of_wholeSite_eq_none hfirst hbefore hapart).trans
            (of_wholeSite_eq_none hsecond hbefore hapart).symm
        rw [exchange_plain hfirst, exchange_plain hsecond, List.cons.injEq, agree_cons,
          ih cs.length (by rw [← hlen]; exact Nat.lt_succ_self _) rfl]
        exact and_congr_left' (iff_of_true rfl hhead)

end Composition

end Multidialect.Text
