import Multidialect.Proofs.Template.Operands

/-! # The two searches for the placeholder

The first search finds an operand in front of its operator, and covers the operator and the character
in front of the name. The second one finds an operand behind its operator, and covers the operator and
the character behind the name. Each exchanges the name where no site of its own hides the operand: the
first at every operand that is not crowded (`exchanges_leftOperand`), the second at every one that is
not hidden (`exchanges_rightOperand`). The invariants say that what a search has passed over was hidden.
-/

namespace Multidialect.Placeholder

open Text Comparison

variable {name : Text}

/-! ## The search in front of operators -/

/-- A name and the operator behind it. -/
structure LeftOperand (name : Text) where
  space : Text
  negated : Bool
  blank : ∀ c ∈ space, isBlank c = true

namespace LeftOperand

/-- What stands behind the name. -/
def tail (o : LeftOperand name) : Text := o.space ++ sign o.negated

/-- The characters of an operand with its operator. -/
def text (o : LeftOperand name) : Text := name ++ o.tail

theorem tail_foreign (o : LeftOperand name) : IsForeign o.tail :=
  (isForeign_of_blank o.blank).append (sign_foreign o.negated)

theorem isApart_tail_reverse (o : LeftOperand name) (before : Text) :
    isApart (o.tail.reverse ++ before) = true := by
  obtain ⟨c, hsign⟩ := sign_eq o.negated
  rw [tail, hsign, List.reverse_append]
  exact isApart_of_foreign (by decide)

theorem tail_inj {o o' : LeftOperand name} {v v' : Text} (h : o.tail ++ v = o'.tail ++ v') :
    o.tail = o'.tail := by
  rw [tail, tail, List.append_assoc, List.append_assoc] at h
  obtain ⟨hspace, hnegated, -⟩ := space_sign_inj o.blank o'.blank h
  rw [tail, tail, hspace, hnegated]

theorem isAhead_tail (o : LeftOperand name) (v : Text) : isAhead (o.tail ++ v) = true :=
  isAhead_iff.2 ⟨o.space, o.negated, v, o.blank, by rw [tail, List.append_assoc]⟩

theorem exists_of_isAhead (name : Text) {rest : Text} (h : isAhead rest = true) :
    ∃ (o : LeftOperand name) (v : Text), rest = o.tail ++ v := by
  obtain ⟨ws, negated, v, hws, rfl⟩ := isAhead_iff.1 h
  exact ⟨⟨ws, negated, hws⟩, v, by rw [tail, List.append_assoc]⟩

theorem leftLink_text (hname : IsWhole name) (o : LeftOperand name) {b : Text}
    (hb : isApart b = true) : leftLink name (o.text.reverse ++ b) = some b :=
  (leftLink_iff hname).2 ⟨hb, o.negated, o.space.reverse,
    fun c hc => o.blank c (List.mem_reverse.1 hc), by simp [text, tail]⟩

end LeftOperand

theorem exists_leftLink {before : Text} (h : isCrowded name before = true) :
    ∃ b, leftLink name before = some b ∧ isCrowded name b = false := exists_link h

theorem operand?_iff {lead t : Text} {around : Text × Text} {n : Nat} :
    operand? name lead t = some (around, n) ↔ ∃ (o : LeftOperand name) (v : Text),
      t = o.text ++ v ∧ around = (lead, o.tail) ∧ n = (lead ++ o.text).length := by
  constructor
  · intro h
    obtain ⟨rest, hrest, h⟩ := Option.bind_eq_some_iff.1 h
    obtain ⟨⟨op, v⟩, hop, h⟩ := Option.bind_eq_some_iff.1 h
    obtain ⟨rfl, rfl⟩ := Prod.mk.inj (Option.some.inj h)
    obtain ⟨negated, rfl, hv⟩ := comparison?_iff.1 hop
    refine ⟨⟨rest.takeWhile isBlank, negated, all_takeWhile⟩, v, ?_, rfl, ?_⟩
    · rw [stripStart?_eq_some.1 hrest, LeftOperand.text, LeftOperand.tail, List.append_assoc,
        List.append_assoc, ← hv, takeWhile_append_trimStart]
    · simp only [LeftOperand.text, LeftOperand.tail, List.length_append]
      omega
  · rintro ⟨o, v, rfl, rfl, rfl⟩
    have hstrip : stripStart? name (o.text ++ v) = some (o.space ++ (sign o.negated ++ v)) :=
      stripStart?_eq_some.2 (by simp [LeftOperand.text, LeftOperand.tail])
    have hrun := takeWhile_of_run o.blank (sign_not_blank o.negated v)
    rw [operand?, hstrip]
    simp only [Option.bind_eq_bind, Option.bind_some, trimStart, hrun,
      comparison?_iff.2 ⟨o.negated, rfl, rfl⟩]
    simp [LeftOperand.text, LeftOperand.tail]
    omega

/-- A site of the first search: an operand with the character in front of it, if there is one. -/
theorem leftOperand_iff (hname : IsWhole name) {before t : Text} {around : Text × Text} {n : Nat} :
    leftOperand name before t = some (around, n) ↔
      ∃ (lead : Text) (o : LeftOperand name) (v : Text), t = lead ++ (o.text ++ v) ∧
        around = (lead, o.tail) ∧ n = (lead ++ o.text).length ∧
        ((lead = [] ∧ before = []) ∨ ∃ c, lead = [c] ∧ isIdentifierChar c = false) := by
  constructor
  · intro h
    rcases Option.or_eq_some_iff.1 h with h | ⟨-, h⟩
    · split at h
      · rename_i hbefore
        obtain ⟨o, v, rfl, rfl, rfl⟩ := operand?_iff.1 h
        exact ⟨[], o, v, rfl, rfl, rfl, .inl ⟨rfl, hbefore⟩⟩
      · cases h
    · cases t with
      | nil => cases h
      | cons c cs =>
        dsimp only at h
        split at h
        · cases h
        · rename_i hc
          obtain ⟨o, v, rfl, rfl, rfl⟩ := operand?_iff.1 h
          exact ⟨[c], o, v, rfl, rfl, rfl, .inr ⟨c, rfl, by simpa using hc⟩⟩
  · rintro ⟨lead, o, v, rfl, rfl, rfl, ⟨rfl, rfl⟩ | ⟨c, rfl, hc⟩⟩
    · have hfound := operand?_iff.2 ⟨o, v, rfl, rfl, rfl (a := ([] ++ o.text).length)⟩
      simp only [leftOperand, List.nil_append, hfound, if_true, Option.some_or]
    · have hfound := operand?_iff.2 ⟨o, v, rfl, rfl, rfl (a := ([c] ++ o.text).length)⟩
      have hnone : operand? name [] (c :: (o.text ++ v)) = none := by
        refine Option.eq_none_iff_forall_ne_some.2 fun ⟨around, n⟩ h => ?_
        obtain ⟨o', v', heq, -⟩ := operand?_iff.1 h
        refine hname.ne_append hc (o.text ++ v) (o'.tail ++ v') ?_
        rw [heq, LeftOperand.text, List.append_assoc]
      simp [leftOperand, hnone, hc, hfound]

/-- Where the first search exchanges the name. -/
def isFoundLeft (name before rest : Text) : Bool := isAhead rest && !isCrowded name before

/-- An operand that has been begun where the first search has come to is one that it does not find:
the operand stands directly behind a site. -/
def PassedLeft (name before t : Text) : Prop :=
  ∀ (o : LeftOperand name) (u b v : Text), before = u.reverse ++ b → isApart b = true →
    u ++ t = o.text ++ v → u.length < o.text.length → before = [] ∨ isCrowded name b = true

theorem passedLeft_start (t : Text) : PassedLeft name [] t := fun _ _ _ _ _ _ _ _ => .inl rfl

section LeftSearch

variable (hname : IsWhole name)
include hname

/-- No operand starts at the place where the first search finds nothing, but a crowded one. -/
theorem PassedLeft.wholeSite_eq_none {before t : Text} (h : PassedLeft name before t)
    (hnone : leftOperand name before t = none) :
    wholeSite name (isFoundLeft name) before t = none := by
  refine Text.wholeSite_eq_none fun rest ht hbefore _ => Bool.eq_false_iff.2 fun hfound => ?_
  obtain ⟨hahead, hcrowded⟩ := Bool.and_eq_true_iff.1 hfound
  obtain ⟨o, v, rfl⟩ := LeftOperand.exists_of_isAhead name hahead
  have ht' : t = o.text ++ v := by rw [ht, LeftOperand.text, List.append_assoc]
  have hpos : 0 < o.text.length := by
    have := List.length_pos_iff.2 hname.ne_nil
    rw [LeftOperand.text, List.length_append]
    omega
  rcases h o [] before v rfl hbefore ht' hpos with rfl | hcrowded'
  · rw [(leftOperand_iff hname).2 ⟨[], o, v, ht', rfl, rfl, .inl ⟨rfl, rfl⟩⟩] at hnone
    cases hnone
  · rw [hcrowded'] at hcrowded
    cases hcrowded

theorem PassedLeft.next {before cs : Text} {c : Char} (h : PassedLeft name before (c :: cs))
    (hnone : leftOperand name before (c :: cs) = none) : PassedLeft name (c :: before) cs := by
  intro o u b v hbefore hb hu hlt
  refine .inr ?_
  rcases List.eq_nil_or_concat u with rfl | ⟨u, d, rfl⟩
  · -- An operand that starts behind a foreign character would have been found with it.
    obtain rfl : c :: before = b := hbefore
    have hc : isIdentifierChar c = false := by simpa [isApart] using hb
    rw [(leftOperand_iff hname).2 ⟨[c], o, v, by rw [← hu]; rfl, rfl, rfl, .inr ⟨c, rfl, hc⟩⟩]
      at hnone
    cases hnone
  · rw [List.concat_eq_append] at hbefore hu hlt
    rw [List.reverse_concat, List.cons_append, List.cons.injEq] at hbefore
    obtain ⟨rfl, hbefore⟩ := hbefore
    have hu' : u ++ c :: cs = o.text ++ v := by rw [← hu]; simp
    rw [List.length_append] at hlt
    rcases h o u b v hbefore hb hu' (by omega) with rfl | hcrowded
    · obtain ⟨hu'', rfl⟩ := List.nil_eq_append_iff.1 hbefore
      obtain rfl := List.reverse_eq_nil_iff.1 hu''
      have hfound : leftOperand name [] (c :: cs) = _ :=
        (leftOperand_iff hname).2 ⟨[], o, v, hu', rfl, rfl, .inl ⟨rfl, rfl⟩⟩
      rw [hfound] at hnone
      cases hnone
    · exact hcrowded

/-- An operand that the first search finds is not crowded. -/
theorem PassedLeft.not_isCrowded {before t : Text} {c : Char}
    (h : PassedLeft name before (c :: t)) : isCrowded name (c :: before) = false := by
  refine Bool.eq_false_iff.2 fun hcrowded => ?_
  obtain ⟨b, hlink, hb⟩ := exists_leftLink hcrowded
  obtain ⟨hapart, negated, ws, hws, hbefore⟩ := (leftLink_iff hname).1 hlink
  obtain ⟨s, hsign⟩ := sign_eq negated
  simp only [hsign, List.reverse_cons, List.reverse_nil, List.nil_append, List.cons_append,
    List.cons.injEq] at hbefore
  obtain ⟨rfl, hbefore⟩ := hbefore
  let o : LeftOperand name := ⟨ws.reverse, negated, fun d hd => hws d (List.mem_reverse.1 hd)⟩
  have htext : o.text = name ++ (ws.reverse ++ [s, '=']) ++ ['='] := by
    simp [LeftOperand.text, LeftOperand.tail, o, hsign]
  have hpassed := h o (name ++ (ws.reverse ++ [s, '='])) b t (by simp [hbefore]) hapart
    (by simp [htext]) (by simp [htext])
  rcases hpassed with rfl | hcrowded'
  · cases hbefore
  · rw [hb] at hcrowded'
    cases hcrowded'

/-- Behind a site the first search has passed nothing but what stands directly there. -/
theorem PassedLeft.behind {lead before t : Text} (o : LeftOperand name)
    (hlead : isApart (lead.reverse ++ before) = true)
    (hfree : isCrowded name (lead.reverse ++ before) = false) :
    PassedLeft name ((lead ++ o.text).reverse ++ before) t := by
  intro o' u b v hbefore hb hu hlt
  refine .inr ?_
  rw [List.reverse_append, List.append_assoc] at hbefore
  cases u with
  | nil =>
    have hcrowded : isCrowded name (o.text.reverse ++ (lead.reverse ++ before)) = true := by
      rw [isCrowded_of_link hname (o.leftLink_text hname hlead), hfree]
      rfl
    rwa [hbefore] at hcrowded
  | cons c u =>
    -- No operand starts within another one and goes on behind it.
    rw [LeftOperand.text, List.reverse_append, List.append_assoc] at hbefore
    rw [LeftOperand.text, List.length_append] at hlt
    rw [LeftOperand.text, List.append_assoc] at hu
    rcases List.append_eq_append_iff.1 hu with ⟨more, hmore, -⟩ | ⟨f, hf, hmore⟩
    · have hwhole : IsWhole (c :: u) :=
        ⟨List.cons_ne_nil c u, fun d hd => hname.identifier d (hmore ▸ List.mem_append_left _ hd)⟩
      have hinside := hwhole.reverse.not_isApart b
      rw [← hbefore, o.isApart_tail_reverse] at hinside
      cases hinside
    · rw [hf, List.reverse_append, List.append_assoc] at hbefore
      rw [hf, List.length_append] at hlt
      have hprefix : f <+: o'.tail := by
        refine List.prefix_of_prefix_length_le ⟨t, hmore.symm⟩ (List.prefix_append _ v) ?_
        omega
      have hforeign : IsForeign f := fun d hd => o'.tail_foreign d (List.IsPrefix.subset hprefix hd)
      have hsame : f = o.tail := List.reverse_injective (hname.reverse.foreign_inj
        (fun d hd => hforeign d (List.mem_reverse.1 hd))
        (fun d hd => o.tail_foreign d (List.mem_reverse.1 hd)) hbefore.symm)
      rw [hsame] at hmore hlt
      rw [LeftOperand.tail_inj hmore] at hlt
      omega

theorem exchanges_leftOperand :
    Exchanges name (isFoundLeft name) (leftOperand name) (PassedLeft name) where
  plain hJ hnone := ⟨hJ.wholeSite_eq_none hname hnone, hJ.next hname hnone⟩
  site := by
    intro before t around n hJ hfound
    obtain ⟨lead, o, v, rfl, rfl, rfl, hlead⟩ := (leftOperand_iff hname).1 hfound
    have hapart : isApart (lead.reverse ++ before) = true := by
      rcases hlead with ⟨rfl, rfl⟩ | ⟨c, rfl, hc⟩
      · rfl
      · exact isApart_of_foreign hc
    have hfree : isCrowded name (lead.reverse ++ before) = false := by
      rcases hlead with ⟨rfl, rfl⟩ | ⟨c, rfl, hc⟩
      · refine Bool.eq_false_iff.2 fun hcrowded => ?_
        obtain ⟨b, hlink, -⟩ := exists_leftLink hcrowded
        obtain ⟨-, negated, ws, -, hnil⟩ := (leftLink_iff hname).1 hlink
        obtain ⟨s, hsign⟩ := sign_eq negated
        simp [hsign] at hnil
      · exact hJ.not_isCrowded hname
    have hforeign : IsForeign lead := by
      rcases hlead with ⟨rfl, rfl⟩ | ⟨c, rfl, hc⟩
      · simp [IsForeign]
      · simpa [IsForeign] using hc
    refine ⟨v, by simp [LeftOperand.text], rfl, hforeign, o.tail_foreign, ?_,
      PassedLeft.behind hname o hapart hfree⟩
    exact wholeSite_append hapart (isApart_of_isAhead (o.isAhead_tail v))
      (Bool.and_eq_true_iff.2 ⟨o.isAhead_tail v, by rw [hfree]; rfl⟩)

end LeftSearch

/-! ## The search behind operators -/

/-- An operator and the white space in front of a name. -/
structure RightOperand where
  negated : Bool
  space : Text
  blank : ∀ c ∈ space, isBlank c = true

namespace RightOperand

/-- What stands in front of the name. -/
def lead (o : RightOperand) : Text := sign o.negated ++ o.space

theorem lead_foreign (o : RightOperand) : IsForeign o.lead :=
  (sign_foreign o.negated).append (isForeign_of_blank o.blank)

theorem lead_ne_nil (o : RightOperand) : o.lead ≠ [] := by
  obtain ⟨c, hsign⟩ := sign_eq o.negated
  simp [lead, hsign]

theorem isBehind_lead (o : RightOperand) (before : Text) :
    isBehind (o.lead.reverse ++ before) = true :=
  isBehind_iff.2 ⟨o.space.reverse, o.negated, before,
    fun c hc => o.blank c (List.mem_reverse.1 hc), by simp [lead]⟩

theorem exists_of_isBehind {before : Text} (h : isBehind before = true) :
    ∃ (o : RightOperand) (b : Text), before = o.lead.reverse ++ b := by
  obtain ⟨ws, negated, b, hws, rfl⟩ := isBehind_iff.1 h
  exact ⟨⟨negated, ws.reverse, fun c hc => hws c (List.mem_reverse.1 hc)⟩, b, by simp [lead]⟩

theorem rightLink_lead {b before : Text} (o : RightOperand) :
    rightLink name (o.lead.reverse ++ before) = some b ↔
      isBehind b = true ∧ before = name.reverse ++ b := by
  rw [rightLink_iff, and_congr_right_iff]
  refine fun _ => ⟨?_, ?_⟩
  · rintro ⟨ws, negated, hws, h⟩
    rw [lead, List.reverse_append, List.append_assoc] at h
    exact (space_sign_reverse_inj (fun c hc => o.blank c (List.mem_reverse.1 hc)) hws h).2.2
  · rintro rfl
    exact ⟨o.space.reverse, o.negated, fun c hc => o.blank c (List.mem_reverse.1 hc),
      by simp [lead]⟩

end RightOperand

/-- The character behind a name, if there is one. -/
def IsTail (tail v : Text) : Prop :=
  (tail = [] ∧ v = []) ∨ ∃ c, tail = [c] ∧ isIdentifierChar c = false

theorem IsTail.isApart {tail v : Text} (h : IsTail tail v) : isApart (tail ++ v) = true := by
  rcases h with ⟨rfl, rfl⟩ | ⟨c, rfl, hc⟩
  · rfl
  · exact isApart_of_foreign hc

theorem IsTail.isForeign {tail v : Text} (h : IsTail tail v) : IsForeign tail := by
  rcases h with ⟨rfl, rfl⟩ | ⟨c, rfl, hc⟩
  · simp [IsForeign]
  · simpa [IsForeign] using hc

theorem IsTail.inj {tail tail' v v' : Text} (h : IsTail tail v) (h' : IsTail tail' v')
    (heq : tail ++ v = tail' ++ v') : tail = tail' := by
  rcases h with ⟨rfl, rfl⟩ | ⟨c, rfl, -⟩ <;> rcases h' with ⟨rfl, rfl⟩ | ⟨c', rfl, -⟩ <;>
    simp_all

theorem rightOperand_eq_some {before t : Text} {around : Text × Text} {n : Nat}
    (h : rightOperand name before t = some (around, n)) :
    ∃ (o : RightOperand) (tail v : Text), t = o.lead ++ (name ++ (tail ++ v)) ∧
      around = (o.lead, tail) ∧ n = (o.lead ++ (name ++ tail)).length ∧ IsTail tail v := by
  obtain ⟨⟨op, rest⟩, hop, hsplits⟩ := Option.bind_eq_some_iff.1 h
  obtain ⟨⟨ws, rest'⟩, hws, hsplit⟩ := List.exists_of_findSome?_eq_some hsplits
  obtain ⟨more, hmore, hfound⟩ := Option.bind_eq_some_iff.1 hsplit
  obtain ⟨negated, rfl, rfl⟩ := comparison?_iff.1 hop
  have hrest : rest = ws ++ (name ++ more) := by
    rw [append_of_mem_blankSplits hws, stripStart?_eq_some.1 hmore]
  refine ⟨⟨negated, ws, isBlank_of_mem_blankSplits hws⟩, ?_⟩
  dsimp only at hfound
  split at hfound
  · obtain ⟨rfl, rfl⟩ := Prod.mk.inj (Option.some.inj hfound)
    exact ⟨[], [], by simp [RightOperand.lead, hrest], rfl, by simp [RightOperand.lead]; omega,
      .inl ⟨rfl, rfl⟩⟩
  · rename_i c more
    split at hfound
    · cases hfound
    · rename_i hc
      obtain ⟨rfl, rfl⟩ := Prod.mk.inj (Option.some.inj hfound)
      exact ⟨[c], more, by simp [RightOperand.lead, hrest], rfl, by simp [RightOperand.lead]; omega,
        .inr ⟨c, rfl, by simpa using hc⟩⟩

theorem rightOperand_isSome (name : Text) (o : RightOperand) (before : Text) {v : Text}
    (hv : isApart v = true) :
    (rightOperand name before (o.lead ++ (name ++ v))).isSome = true := by
  have hop := comparison?_iff.2 ⟨o.negated, rfl,
    rfl (a := sign o.negated ++ (o.space ++ (name ++ v)))⟩
  rw [RightOperand.lead, List.append_assoc, rightOperand, hop]
  simp only [Option.bind_eq_bind, Option.bind_some, List.findSome?_isSome_iff]
  refine ⟨(o.space, name ++ v), mem_blankSplits o.blank, ?_⟩
  simp only [stripStart?_eq_some.2 (rfl (a := name ++ v)), Option.bind_some]
  cases v with
  | nil => rfl
  | cons c v =>
    have hc : isIdentifierChar c = false := by simpa [isApart] using hv
    simp [hc]

/-- A site of the second search: an operand with the character behind it, if there is one. -/
theorem rightOperand_iff (hname : IsWhole name) {before t : Text} {around : Text × Text} {n : Nat} :
    rightOperand name before t = some (around, n) ↔
      ∃ (o : RightOperand) (tail v : Text), t = o.lead ++ (name ++ (tail ++ v)) ∧
        around = (o.lead, tail) ∧ n = (o.lead ++ (name ++ tail)).length ∧ IsTail tail v := by
  refine ⟨rightOperand_eq_some, ?_⟩
  rintro ⟨o, tail, v, rfl, rfl, rfl, htail⟩
  obtain ⟨⟨around, n⟩, hfound⟩ := Option.isSome_iff_exists.1
    (rightOperand_isSome name o before htail.isApart)
  obtain ⟨o', tail', v', heq, rfl, rfl, htail'⟩ := rightOperand_eq_some hfound
  have hlead := hname.foreign_inj o.lead_foreign o'.lead_foreign heq
  rw [hlead] at heq
  have htails := htail.inj htail' (List.append_cancel_left (List.append_cancel_left heq))
  rw [hfound, hlead, htails]

/-- Where the second search exchanges the name. -/
def isFoundRight (name before _rest : Text) : Bool := isBehind before && !isHidden name before

/-- Whether the second search exchanges a name that ends here. -/
def EndsFound (name before : Text) : Prop :=
  ∃ b, before = name.reverse ++ b ∧ isBehind b = true ∧ isHidden name b = false

/-- An operand that has been begun where the second search has come to is one that it does not find:
the operator starts with the last character of a site. -/
structure PassedRight (name before t : Text) : Prop where
  begun : ∀ (o : RightOperand) (u b v : Text), before = u.reverse ++ b → u ≠ [] →
    u ++ t = o.lead ++ (name ++ v) → isApart v = true → u.length < (o.lead ++ name).length →
    EndsFound name b
  ends : isApart t = true → t ≠ [] → ¬ EndsFound name before

theorem passedRight_start (hname : IsWhole name) (t : Text) : PassedRight name [] t where
  begun o u b v h hu := by
    obtain ⟨h, -⟩ := List.nil_eq_append_iff.1 h
    exact absurd (List.reverse_eq_nil_iff.1 h) hu
  ends _ _ := by
    rintro ⟨b, h, -⟩
    exact hname.reverse.ne_nil (List.nil_eq_append_iff.1 h).1

section RightSearch

variable (hname : IsWhole name)
include hname

theorem PassedRight.wholeSite_eq_none {before t : Text} (h : PassedRight name before t) :
    wholeSite name (isFoundRight name) before t = none := by
  refine Text.wholeSite_eq_none fun rest ht hbefore hrest => Bool.eq_false_iff.2 fun hfound => ?_
  obtain ⟨hbehind, hhidden⟩ := Bool.and_eq_true_iff.1 hfound
  obtain ⟨o, b, rfl⟩ := RightOperand.exists_of_isBehind hbehind
  have hpos := List.length_pos_iff.2 hname.ne_nil
  obtain ⟨b', rfl, hb', hhidden'⟩ := h.begun o o.lead b rest rfl o.lead_ne_nil (by rw [ht]) hrest
    (by rw [List.length_append]; omega)
  rw [isHidden_of_link hname (o.rightLink_lead.2 ⟨hb', rfl⟩), hhidden'] at hhidden
  cases hhidden

theorem PassedRight.next {before cs : Text} {c : Char} (h : PassedRight name before (c :: cs))
    (hnone : rightOperand name before (c :: cs) = none) : PassedRight name (c :: before) cs where
  begun := by
    intro o u b v hbefore hne hu hv hlt
    rcases List.eq_nil_or_concat u with rfl | ⟨u, d, rfl⟩
    · exact absurd rfl hne
    · rw [List.concat_eq_append] at hbefore hu hlt
      rw [List.reverse_concat, List.cons_append, List.cons.injEq] at hbefore
      obtain ⟨rfl, hbefore⟩ := hbefore
      rw [List.append_assoc, List.singleton_append] at hu
      rw [List.length_append] at hlt
      cases u with
      | nil =>
        -- An operand that starts with this character would have been found.
        have hsome := rightOperand_isSome name o before hv
        rw [← hu, List.nil_append, hnone] at hsome
        cases hsome
      | cons e u => exact h.begun o (e :: u) b v hbefore (List.cons_ne_nil e u) hu hv (by omega)
  ends := by
    rintro hcs hne ⟨b, hbefore, hb, hhidden⟩
    obtain ⟨o, b', rfl⟩ := RightOperand.exists_of_isBehind hb
    obtain ⟨d, r, hr⟩ := List.exists_cons_of_ne_nil hname.reverse.ne_nil
    have hsplit : name = r.reverse ++ [d] := by rw [← List.reverse_reverse name, hr]; simp
    rw [hr, List.cons_append, List.cons.injEq] at hbefore
    obtain ⟨rfl, rfl⟩ := hbefore
    obtain ⟨b'', rfl, hb'', hhidden'⟩ := h.begun o (o.lead ++ r.reverse) b' cs (by simp)
      (by simp [o.lead_ne_nil]) (by simp [hsplit]) hcs (by simp [hsplit])
    rw [isHidden_of_link hname (o.rightLink_lead.2 ⟨hb'', rfl⟩), hhidden'] at hhidden
    cases hhidden

omit hname in
/-- An operand that the second search finds is not hidden. -/
theorem PassedRight.not_isHidden {before t : Text} {o : RightOperand}
    (h : PassedRight name before (o.lead ++ t)) :
    isHidden name (o.lead.reverse ++ before) = false := by
  refine Bool.eq_false_iff.2 fun hhidden => ?_
  obtain ⟨b, hlink, hb⟩ := exists_link hhidden
  obtain ⟨hbehind, rfl⟩ := o.rightLink_lead.1 hlink
  refine h.ends ?_ (by simp [o.lead_ne_nil]) ⟨b, rfl, hbehind, hb⟩
  obtain ⟨c, lead, hc⟩ := List.exists_cons_of_ne_nil o.lead_ne_nil
  rw [hc]
  exact isApart_of_foreign (o.lead_foreign c (by simp [hc]))

/-- Behind a site the second search has passed nothing but what starts with its last character. -/
theorem PassedRight.behind {before tail v : Text} (o : RightOperand) (htail : IsTail tail v)
    (hfree : isHidden name (o.lead.reverse ++ before) = false) :
    PassedRight name ((o.lead ++ (name ++ tail)).reverse ++ before) v := by
  have hends : EndsFound name (name.reverse ++ (o.lead.reverse ++ before)) :=
    ⟨_, rfl, o.isBehind_lead before, hfree⟩
  have hbefore' : (o.lead ++ (name ++ tail)).reverse ++ before =
      tail.reverse ++ (name.reverse ++ (o.lead.reverse ++ before)) := by simp
  rw [hbefore']
  rcases htail with ⟨rfl, rfl⟩ | ⟨c, rfl, hc⟩
  · -- The text ends here, and so does every operand that has been begun.
    constructor
    · intro o' u b v _ _ hu _ hlt
      have hlen := congrArg List.length hu
      simp only [List.length_append, List.length_nil] at hlen hlt
      omega
    · exact fun _ hne => absurd rfl hne
  · constructor
    · intro o' u b w hbefore hne hu _ hlt
      rcases List.eq_nil_or_concat u with rfl | ⟨u, d, rfl⟩
      · exact absurd rfl hne
      · rw [List.concat_eq_append] at hbefore hu hlt
        rw [List.reverse_concat, List.reverse_singleton, List.singleton_append, List.cons_append,
          List.cons.injEq] at hbefore
        obtain ⟨rfl, hbefore⟩ := hbefore
        rcases List.eq_nil_or_concat u with rfl | ⟨u, e, rfl⟩
        · rw [List.reverse_nil, List.nil_append] at hbefore
          rwa [← hbefore]
        · -- A name goes on in front of the last character, so no operator can reach it.
          rw [List.concat_eq_append] at hbefore hu hlt
          obtain ⟨d, r, hr⟩ := List.exists_cons_of_ne_nil hname.reverse.ne_nil
          rw [hr, List.reverse_concat, List.cons_append, List.cons_append, List.cons.injEq] at hbefore
          have he : isIdentifierChar e = true :=
            hbefore.1 ▸ hname.reverse.identifier d (by simp [hr])
          have hle := hname.length_le_of_stop (u := u) (t := v) o'.lead_foreign he hc
            (by rw [← hu]; simp)
          simp only [List.length_append, List.length_singleton] at hlt hle
          omega
    · rintro - - ⟨b, hb, -⟩
      exact hname.reverse.ne_append hc _ _ hb

theorem exchanges_rightOperand :
    Exchanges name (isFoundRight name) (rightOperand name) (PassedRight name) where
  plain hJ hnone := ⟨hJ.wholeSite_eq_none hname, hJ.next hname hnone⟩
  site := by
    intro before t around n hJ hfound
    obtain ⟨o, tail, v, rfl, rfl, rfl, htail⟩ := (rightOperand_iff hname).1 hfound
    have hfree := hJ.not_isHidden
    have hapart := isApart_of_isBehind (o.isBehind_lead before)
    refine ⟨v, rfl, rfl, o.lead_foreign, htail.isForeign, ?_, PassedRight.behind hname o htail hfree⟩
    exact wholeSite_append hapart htail.isApart
      (Bool.and_eq_true_iff.2 ⟨o.isBehind_lead before, by rw [hfree]; rfl⟩)

end RightSearch

end Multidialect.Placeholder
