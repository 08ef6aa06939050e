import Multidialect.Proofs.Template.OperandSearches

/-! # Substituting the placeholder

The two searches together exchange the placeholder at every operand but the missed ones
(`substitute_eq_exchange`). So the placeholder is substituted in full exactly if nothing is missed
(`substitute_exhausts_iff`).
-/

namespace Multidialect.Placeholder

open Text Comparison

variable {name word : Text} {P : Text → Text → Bool}

/-- Whether a name is an operand. -/
def isOperand (before rest : Text) : Bool := isBehind before || isAhead rest

/-- Whether a name is an operand that one of the searches comes to. -/
def isReached (name before rest : Text) : Bool :=
  isOperand before rest && !isMissed name before rest

/-- An occurrence of the name as an operand. -/
structure Occurs (name t before rest : Text) : Prop where
  split : t = before.reverse ++ (name ++ rest)
  starts : isApart before = true
  stops : isApart rest = true
  operand : isOperand before rest = true

theorem quote_notMem_of_blank {ws : Text} (h : ∀ c ∈ ws, isBlank c = true) : '\'' ∉ ws :=
  fun hm => ne_of_isBlank (h _ hm) (by decide) rfl

theorem quote_notMem_sign (negated : Bool) : '\'' ∉ sign negated := by cases negated <;> decide

section Neighbours

variable (hname : IsWhole name)
include hname

theorem isBehind_made {before after made : Text}
    (h : Exchanged name (between word) P before after made) : isBehind made = isBehind before := by
  refine Bool.eq_iff_iff.2 ⟨fun hmade => ?_, fun hbefore => ?_⟩
  · obtain ⟨o, m, rfl⟩ := RightOperand.exists_of_isBehind hmade
    have hquote : '\'' ∉ o.lead.reverse := by
      simp [RightOperand.lead, quote_notMem_of_blank o.blank, quote_notMem_sign]
    obtain ⟨b, rfl, -⟩ := h.eq_append hquote
    exact o.isBehind_lead b
  · obtain ⟨o, b, rfl⟩ := RightOperand.exists_of_isBehind hbefore
    obtain ⟨m, rfl, -⟩ := h.made_append hname fun c hc => o.lead_foreign c (List.mem_reverse.1 hc)
    exact o.isBehind_lead m

theorem isAhead_exchange (before rest : Text) :
    isAhead (exchange name (between word) P before rest) = isAhead rest := by
  refine Bool.eq_iff_iff.2 ⟨fun hmade => ?_, fun hrest => ?_⟩
  · obtain ⟨o, v, hv⟩ := LeftOperand.exists_of_isAhead name hmade
    have hquote : '\'' ∉ o.tail := by
      simp [LeftOperand.tail, quote_notMem_of_blank o.blank, quote_notMem_sign]
    obtain ⟨rest', rfl, -⟩ := eq_append_of_exchange hname hquote hv
    exact o.isAhead_tail rest'
  · obtain ⟨o, v, rfl⟩ := LeftOperand.exists_of_isAhead name hrest
    rw [exchange_foreign hname o.tail_foreign]
    exact o.isAhead_tail _

/-- A name between two operators is linked by either to the same place. -/
theorem eq_of_links {before b b' : Text} (h : leftLink name before = some b)
    (h' : rightLink name before = some b') : b = b' := by
  obtain ⟨-, negated, ws, hws, hleft⟩ := (leftLink_iff hname).1 h
  obtain ⟨-, ws', negated', hws', hright⟩ := rightLink_iff.1 h'
  rw [hleft] at hright
  have hnil : ∀ c ∈ ([] : Text), isBlank c = true := by simp
  obtain ⟨-, -, hrest⟩ := space_sign_reverse_inj hnil hws' hright
  obtain rfl := hname.reverse.eq_nil_of_foreign (isForeign_of_blank hws) hrest
  exact List.append_cancel_left hrest

theorem isBehind_of_isCrowded {before : Text} (h : isCrowded name before = true) :
    isBehind before = true := by
  obtain ⟨b, hb, -⟩ := exists_leftLink h
  obtain ⟨-, negated, ws, -, rfl⟩ := (leftLink_iff hname).1 hb
  exact isBehind_iff.2 ⟨[], negated, _, by simp, rfl⟩

/-- A name that the first search leaves in front of an operator is crowded. -/
theorem exists_rightLink {before after made m : Text}
    (h : Exchanged name (between word) (isFoundLeft name) before after made)
    (hlink : rightLink name made = some m) : ∃ b after', rightLink name before = some b ∧
      isCrowded name b = true ∧ Exchanged name (between word) (isFoundLeft name) b after' m := by
  obtain ⟨hbehind, ws, negated, hws, rfl⟩ := rightLink_iff.1 hlink
  have hquote : '\'' ∉ ws ++ ((sign negated).reverse ++ name.reverse) := by
    simp [quote_notMem_of_blank hws, quote_notMem_sign, quote_notMem hname]
  rw [← List.append_assoc (sign negated).reverse, ← List.append_assoc ws] at h
  obtain ⟨b, rfl, hb, hnone⟩ := h.eq_append hquote
  rw [isBehind_made hname hb] at hbehind
  refine ⟨b, _, rightLink_iff.2 ⟨hbehind, ws, negated, hws, by simp⟩, ?_, hb⟩
  let o : LeftOperand name := ⟨[], negated, by simp⟩
  have hafter : (ws ++ ((sign negated).reverse ++ name.reverse)).reverse ++ after =
      name ++ (o.tail ++ (ws.reverse ++ after)) := by simp [o, LeftOperand.tail]
  have hahead := o.isAhead_tail (ws.reverse ++ after)
  have hfound := hnone (by simp [hname.ne_nil])
  rw [hafter] at hfound
  have hfree := of_wholeSite_eq_none hfound (isApart_of_isBehind hbehind) (isApart_of_isAhead hahead)
  rw [isFoundLeft, hahead, Bool.true_and, Bool.not_eq_false'] at hfree
  exact hfree

/-- What the first search leaves is hidden from the second one exactly if it was directly in front of
a crowded name. -/
theorem isHidden_made {before after made : Text}
    (h : Exchanged name (between word) (isFoundLeft name) before after made) :
    isHidden name made = (rightLink name before).any (isCrowded name) := by
  refine Bool.eq_iff_iff.2 ⟨fun hhidden => ?_, fun hany => ?_⟩
  · obtain ⟨m, hlink, -⟩ := exists_link hhidden
    obtain ⟨b, -, hb, hcrowded, -⟩ := exists_rightLink hname h hlink
    rw [hb]
    exact hcrowded
  · obtain ⟨b, hb, hcrowded⟩ := (Option.any_eq_true _ _).1 hany
    obtain ⟨hbehind, ws, negated, hws, rfl⟩ := rightLink_iff.1 hb
    obtain ⟨m₁, rfl, h₁⟩ := h.made_append hname (isForeign_of_blank hws)
    obtain ⟨m₂, rfl, h₂⟩ := h₁.made_append hname fun c hc =>
      sign_foreign negated c (List.mem_reverse.1 hc)
    have hnone : wholeSite name (isFoundLeft name) b
        (name.reverse.reverse ++ ((sign negated).reverse.reverse ++ (ws.reverse ++ after))) = none := by
      rw [List.reverse_reverse]
      exact wholeSite_eq_none fun _ _ _ _ => by
        rw [isFoundLeft, hcrowded, Bool.not_true, Bool.and_false]
    obtain ⟨m, rfl, hm⟩ := h₂.made_identifier hname hname.reverse.identifier
      (isApart_of_isBehind hbehind) hnone
    have hlink : rightLink name (ws ++ ((sign negated).reverse ++ (name.reverse ++ m))) = some m :=
      rightLink_iff.2 ⟨by rw [isBehind_made hname hm, hbehind], ws, negated, hws, rfl⟩
    rw [isHidden_of_link hname hlink, Bool.not_eq_true']
    -- The name before a crowded one has been exchanged, so nothing hides the crowded one.
    refine Bool.eq_false_iff.2 fun hhidden => ?_
    obtain ⟨m', hm', -⟩ := exists_link hhidden
    obtain ⟨b₁, -, hb₁, hcrowded₁, -⟩ := exists_rightLink hname hm hm'
    obtain ⟨b₂, hb₂, hfree⟩ := exists_leftLink hcrowded
    rw [eq_of_links hname hb₂ hb₁, hcrowded₁] at hfree
    cases hfree

/-- A crowded name does not stand directly behind another one and its operator. -/
theorem not_behind_isCrowded {before : Text} (h : isCrowded name before = true) :
    (rightLink name before).any (isCrowded name) = false := by
  refine Bool.eq_false_iff.2 fun hany => ?_
  obtain ⟨b, hb, hcrowded⟩ := (Option.any_eq_true _ _).1 hany
  obtain ⟨b', hb', hfree⟩ := exists_leftLink h
  rw [eq_of_links hname hb' hb, hcrowded] at hfree
  cases hfree

theorem composes_searches : Composes name word (isFoundLeft name) (isFoundRight name)
    (isReached name) where
  first := by
    intro before rest h
    obtain ⟨hahead, -⟩ := Bool.and_eq_true_iff.1 h
    simp [isReached, isOperand, isMissed, hahead]
  second := by
    intro before rest made h _ _ hfirst
    rw [isFoundRight, isBehind_made hname h, isHidden_made hname h, isReached, isOperand, isMissed]
    cases hahead : isAhead rest with
    | false => simp
    | true =>
      have hcrowded : isCrowded name before = true := by
        simpa [isFoundLeft, hahead] using hfirst
      simp [isBehind_of_isCrowded hname hcrowded, not_behind_isCrowded hname hcrowded]
  quote _ _ := rfl

theorem composes_operands : Composes name word isOperand isOperand isOperand where
  first := id
  second := by
    intro before rest made h _ _ _
    rw [isOperand, isBehind_made hname h, isAhead_exchange hname, ← isOperand]
  quote _ _ := rfl

end Neighbours

theorem identifier_name (d : Dialect) : ∀ c ∈ d.name.toList, isIdentifierChar c = true :=
  List.all_eq_true.1 (by cases d <;> decide)

theorem finds_ne_nil (hname : IsWhole name) {m : Matcher (Text × Text)}
    (h : Finds m fun around covered => covered = around.1 ++ name ++ around.2) :
    Finds m fun _ covered => covered ≠ [] := by
  intro before after around n hfound
  rw [h before after around n hfound]
  simp [hname.ne_nil]

/-- **The two searches together** exchange the placeholder at every operand but the missed ones. -/
theorem substitute_eq_exchange (hname : IsWhole name) (d : Dialect) (t : Text) :
    substitute name d t = exchange name (quoted d) (isReached name) [] t := by
  have hleft : ∀ s, replaceSites (leftOperand name) (fun a _ => a.1 ++ quoted d ++ a.2) s =
      exchange name (quoted d) (isFoundLeft name) [] s := fun s =>
    replaceFrom_eq_exchange hname (exchanges_leftOperand hname) (passedLeft_start s)
      (finds_ne_nil hname (finds_leftOperand name))
  have hright : ∀ s, replaceSites (rightOperand name) (fun a _ => a.1 ++ quoted d ++ a.2) s =
      exchange name (quoted d) (isFoundRight name) [] s := fun s =>
    replaceFrom_eq_exchange hname (exchanges_rightOperand hname) (passedRight_start hname s)
      (finds_ne_nil hname (finds_rightOperand name))
  rw [substitute, hleft, hright]
  exact exchange_exchange hname (identifier_name d) (composes_searches hname) (.start t)

/-- The text with the placeholder replaced at every operand. -/
def replaceOperands (name : Text) (d : Dialect) (t : Text) : Text :=
  replaceSites (wholeSite name isOperand) (fun _ _ => quoted d) t

/-- Replacing every operand leaves none. -/
theorem not_occurs_replaceOperands (hname : IsWhole name) (d : Dialect) (t : Text)
    {before rest : Text} : ¬ Occurs name (replaceOperands name d t) before rest := by
  intro h
  have htwice : exchange name (quoted d) isOperand [] (replaceOperands name d t) =
      replaceOperands name d t :=
    exchange_exchange hname (identifier_name d) (composes_operands hname) (.start t)
  have hnone : exchange name (quoted d) (fun _ _ => false) [] (replaceOperands name d t) =
      replaceOperands name d t := by
    have hrun : exchange name (quoted d) (fun _ _ => false) [] (replaceOperands name d t ++ []) =
        replaceOperands name d t ++ _ :=
      exchange_run fun _ _ _ _ => wholeSite_eq_none fun _ _ _ _ => rfl
    rwa [exchange_nil hname, List.append_nil] at hrun
  have hagree := (exchange_eq_iff hname (by simp)).1 (hnone.trans htwice.symm) before.reverse rest
    h.split (by simpa using h.starts) h.stops
  rw [List.reverse_reverse, List.append_nil, h.operand] at hagree
  cases hagree

/-- **The placeholder is substituted in full**, at every operand and nowhere else and with no operand
left, exactly if no operand is missed. -/
theorem substitute_exhausts_iff (hname : NameFault.find? name = none) (d : Dialect) (t : Text) :
    (substitute name d t = replaceOperands name d t ∧
      ∀ before rest, ¬ Occurs name (substitute name d t) before rest) ↔
    ∀ before rest, Occurs name t before rest → isMissed name before rest = false := by
  have hwhole := NameFault.isWhole hname
  have hreached : ∀ before rest, isReached name before rest = true →
      isOperand before rest = true := fun before rest h => (Bool.and_eq_true_iff.1 h).1
  have hagree : exchange name (quoted d) (isReached name) [] t = replaceOperands name d t ↔ _ :=
    exchange_eq_iff hwhole hreached
  constructor
  · rintro ⟨hfull, -⟩ before rest h
    rw [substitute_eq_exchange hwhole] at hfull
    have hsame := hagree.1 hfull before.reverse rest h.split (by simpa using h.starts) h.stops
    rw [List.reverse_reverse, List.append_nil, isReached, h.operand] at hsame
    simpa using hsame
  · intro hall
    have hfull : substitute name d t = replaceOperands name d t := by
      rw [substitute_eq_exchange hwhole]
      refine hagree.2 fun u rest ht hbefore hrest => ?_
      rw [List.append_nil] at hbefore ⊢
      rw [isReached]
      cases hoperand : isOperand u.reverse rest with
      | false => rfl
      | true =>
        rw [hall u.reverse rest ⟨by rw [List.reverse_reverse, ht], hbefore, hrest, hoperand⟩]
        rfl
    refine ⟨hfull, fun before rest => ?_⟩
    rw [hfull]
    exact not_occurs_replaceOperands hwhole d t

/-- The operands of `t`, tried at every place. -/
theorem forall_occurs_of_take {Q : Text → Text → Prop} {t : Text}
    (h : ∀ i ≤ t.length, Q (t.take i).reverse (t.drop (i + name.length))) {before rest : Text}
    (hocc : Occurs name t before rest) : Q before rest := by
  have hlen : before.length ≤ t.length := by simp [hocc.split]
  have hbefore : t.take before.length = before.reverse :=
    take_of_eq_append _ hocc.split List.length_reverse.symm
  have hrest : t.drop (before.length + name.length) = rest := by
    rw [hocc.split, ← List.append_assoc, ← List.length_reverse, ← List.length_append, List.drop_left]
  have hat := h before.length hlen
  rwa [hbefore, hrest, List.reverse_reverse] at hat

/-- An operand at either end of a chain. -/
theorem substitute_exhausts_chain :
    NameFault.find? "DIALECT".toList = none ∧
      (∀ before rest, Occurs "DIALECT".toList "DIALECT === 'pg' !== DIALECT".toList before rest →
        isMissed "DIALECT".toList before rest = false) ∧
      substitute "DIALECT".toList .pg "DIALECT === 'pg' !== DIALECT".toList =
        replaceOperands "DIALECT".toList .pg "DIALECT === 'pg' !== DIALECT".toList := by
  have hname : NameFault.find? "DIALECT".toList = none := by decide
  have hall : ∀ before rest,
      Occurs "DIALECT".toList "DIALECT === 'pg' !== DIALECT".toList before rest →
        isMissed "DIALECT".toList before rest = false :=
    fun before rest h => forall_occurs_of_take
      (Q := fun before rest => isMissed "DIALECT".toList before rest = false) (by decide) h
  exact ⟨hname, hall, ((substitute_exhausts_iff hname .pg _).2 hall).1⟩

/-- An operand that shares its operator with a crowded name stays. -/
theorem substitute_misses_third :
    NameFault.find? "DIALECT".toList = none ∧
      substitute "DIALECT".toList .pg "DIALECT===DIALECT===DIALECT".toList =
        "'pg'==='pg'===DIALECT".toList ∧
      Occurs "DIALECT".toList
        (substitute "DIALECT".toList .pg "DIALECT===DIALECT===DIALECT".toList)
        "'pg'==='pg'===".toList.reverse [] ∧
      replaceOperands "DIALECT".toList .pg "DIALECT===DIALECT===DIALECT".toList =
        "'pg'==='pg'==='pg'".toList := by
  have hresult : substitute "DIALECT".toList .pg "DIALECT===DIALECT===DIALECT".toList =
      "'pg'==='pg'===DIALECT".toList := by decide
  refine ⟨by decide, hresult, ?_, by decide⟩
  rw [hresult]
  exact ⟨by decide, by decide, by decide, by decide⟩

end Multidialect.Placeholder
