import Multidialect.Proofs.Script.Quiet

/-! # Folding in a script

A comparison may be folded if it is a literal, an operator and a literal of the script, and no
neighbour binds one of the literals more tightly (`IsRight`). What is folded is so exactly if it is
made of whole elements and no neighbour is overlooked (`fold_right_iff`); in a quiet script it is made
of whole elements throughout.
-/

namespace Multidialect.Script

open Text
open Comparison (Written sign site boundBefore boundAfter truthText)

/-- What folding puts in the place of a piece. -/
def outcome : Piece (Option Bool) → Text
  | .site (some b) _ => truthText b
  | p => p.source

/-- Folding replaces the characters `covered`, which stand between `before` and `after`. -/
def Replaced (t before covered after : Text) : Prop :=
  ∃ ps b qs, pieces site t = ps ++ .site (some b) covered :: qs ∧
    ps.flatMap Piece.source = before ∧ qs.flatMap Piece.source = after

/-- The elements `middle` of a script make up the characters `covered` behind `before`. -/
structure Covers (es past middle rest : List Element) (before covered : Text) : Prop where
  split : es = past ++ (middle ++ rest)
  before_eq : text past = before
  covered_eq : text middle = covered

/-- A literal, an operator and a literal, with white space between them. -/
def IsComparison (es : List Element) : Prop :=
  ∃ l ws op ws' r, es = l :: (ws ++ op :: (ws' ++ [r])) ∧ l.kind = .literal ∧ r.kind = .literal ∧
    op.kind = .punctuator ∧ (op.source = "===".toList ∨ op.source = "!==".toList) ∧
    ∀ e ∈ ws ++ ws', e.kind = .space

/-- Whether the token in front of a comparison or the one behind it binds its literal. -/
def isBound (past rest : List Element) : Bool :=
  (past.reverse.find? Element.isToken).any bindsBefore || (rest.find? Element.isToken).any bindsAfter

/-- Whether a token binds a literal and is hidden. -/
def isOverlooked (past rest : List Element) : Bool :=
  ((past.reverse.find? Element.isToken).any bindsBefore && isUnseenBefore past.reverse) ||
    ((rest.find? Element.isToken).any bindsAfter && isUnseenAfter rest)

/-- The characters `covered` are a comparison of the script, and both literals are its operands. -/
def IsRight (es : List Element) (before covered : Text) : Prop :=
  ∃ past middle rest, Covers es past middle rest before covered ∧ IsComparison middle ∧
    isBound past rest = false

theorem isComparison_elementsOf (w : Written) : IsComparison (elementsOf w) := by
  refine ⟨_, _, _, _, _, rfl, rfl, rfl, rfl, ?_, ?_⟩
  · cases w.negated
    · exact .inl rfl
    · exact .inr rfl
  · intro e he
    rcases List.mem_append.1 he with he | he <;>
      · obtain ⟨c, -, rfl⟩ := List.mem_map.1 he
        rfl

namespace Replaced

variable {t before covered after : Text}

theorem split (h : Replaced t before covered after) : t = before ++ (covered ++ after) := by
  obtain ⟨ps, b, qs, hpieces, rfl, rfl⟩ := h
  have hsource := flatMap_source_pieces site t
  rw [hpieces] at hsource
  simpa [Piece.source] using hsource.symm

/-- What is replaced is written as a comparison, and its neighbours are not seen to bind it. -/
theorem exists_written (h : Replaced t before covered after) :
    ∃ w : Written, covered = w.text ∧ boundBefore before.reverse = false ∧
      boundAfter after = false := by
  obtain ⟨ps, b, qs, hpieces, rfl, rfl⟩ := h
  have hne : Finds site fun _ covered => covered ≠ [] := by
    intro before after value n hfound
    obtain ⟨w, rest, rfl, rfl, -⟩ := Comparison.site_iff.1 hfound
    rw [List.take_left]
    exact w.text_ne_nil
  have hle : ∀ before after value n, site before after = some (value, n) → n ≤ after.length := by
    intro before after value n hfound
    obtain ⟨w, rest, rfl, rfl, -⟩ := Comparison.site_iff.1 hfound
    simp
  have hfound := found_of_piecesFrom hne hle hpieces
  rw [List.append_nil] at hfound
  obtain ⟨w, rest, hw, hlen, hvalue⟩ := Comparison.site_iff.1 hfound
  obtain ⟨rfl, rfl⟩ := List.append_inj hw hlen
  refine ⟨w, rfl, ?_⟩
  split at hvalue
  · cases hvalue
  · rename_i hbound
    simpa using hbound

end Replaced

/-! ## Whole elements -/

theorem source_ne_nil_of_reads {t : Text} {es : List Element} (h : Reads t es) :
    ∀ e ∈ es, e.source ≠ [] := by
  intro e he
  obtain ⟨es₁, es₂, rfl⟩ := List.append_of_mem he
  exact source_ne_nil h.shape.2

/-- Elements are told by their characters. -/
theorem eq_of_text {a b a' b' : List Element} (h : a ++ b = a' ++ b')
    (hne : ∀ e ∈ a ++ b, e.source ≠ []) (htext : text a = text a') : a = a' ∧ b = b' := by
  have hnil : ∀ m : List Element, (∀ e ∈ m, e.source ≠ []) → text m = [] → m = [] := by
    intro m hm hempty
    cases m with
    | nil => rfl
    | cons e m =>
      rw [text_cons, List.append_eq_nil_iff] at hempty
      exact absurd hempty.1 (hm e (.head _))
  rcases List.append_eq_append_iff.1 h with ⟨m, rfl, rfl⟩ | ⟨m, rfl, rfl⟩
  · rw [text_append, List.self_eq_append_right] at htext
    obtain rfl := hnil m (fun e he => hne e (by simp [he])) htext
    simp
  · rw [text_append, List.append_right_eq_self] at htext
    obtain rfl := hnil m (fun e he => hne e (by simp [he])) htext
    simp

theorem Covers.inj {t before covered : Text} {es past middle rest past' middle' rest' : List Element}
    (h : Reads t es) (hc : Covers es past middle rest before covered)
    (hc' : Covers es past' middle' rest' before covered) :
    past = past' ∧ middle = middle' ∧ rest = rest' := by
  have hne := source_ne_nil_of_reads h
  have hsplit := hc.split.symm.trans hc'.split
  obtain ⟨hpast, hmore⟩ := eq_of_text hsplit (hc.split ▸ hne) (hc.before_eq.trans hc'.before_eq.symm)
  refine ⟨hpast, eq_of_text hmore (fun e he => hne e ?_) (hc.covered_eq.trans hc'.covered_eq.symm)⟩
  rw [hc.split]
  exact List.mem_append_right _ he

/-- What stands behind whole elements. -/
theorem Covers.after_eq {t before covered after : Text} {es past middle rest : List Element}
    (h : Reads t es) (hc : Covers es past middle rest before covered)
    (hsplit : t = before ++ (covered ++ after)) : text rest = after := by
  have htext := h.eq_text
  rw [hsplit, hc.split, text_append, text_append, hc.before_eq, hc.covered_eq] at htext
  exact (List.append_cancel_left (List.append_cancel_left htext)).symm

/-- What is replaced from the start of an element on is a comparison of the script. -/
theorem Replaced.covers {t before covered after : Text} {past es : List Element}
    (hr : Replaced t before covered after) (h : Reads t (past ++ es)) (hpast : text past = before) :
    ∃ middle rest, Covers (past ++ es) past middle rest before covered ∧ IsComparison middle := by
  obtain ⟨w, rfl, -⟩ := hr.exists_written
  obtain ⟨ht, hes⟩ := h.of_append
  have htail : text es = w.text ++ after := by
    rw [hr.split, hpast] at ht
    exact (List.append_cancel_left ht).symm
  rw [htail] at hes
  obtain ⟨es', rfl, -⟩ := hes.exists_of_written
  exact ⟨elementsOf w, es', ⟨rfl, hpast, text_elementsOf w⟩, isComparison_elementsOf w⟩

/-- A neighbour that binds a literal which is folded is overlooked. -/
theorem Replaced.isBound_eq {t before covered after : Text} {es past middle rest : List Element}
    (hr : Replaced t before covered after) (h : Reads t es)
    (hc : Covers es past middle rest before covered) : isBound past rest = isOverlooked past rest := by
  obtain ⟨w, -, hbefore, hafter⟩ := hr.exists_written
  have hrest := hc.after_eq h hr.split
  obtain ⟨rfl, rfl, -⟩ := hc
  have hreads : Reads t (past.reverse.reverse ++ (middle ++ rest)) := by rwa [List.reverse_reverse]
  have hbehind : behind past.reverse = (text past).reverse := by
    rw [behind_eq, List.reverse_reverse]
  rw [← List.append_assoc] at h
  have htail := h.of_append.2
  rw [isBound, isOverlooked]
  congr 1
  · cases hbinds : (past.reverse.find? Element.isToken).any bindsBefore with
    | false => rfl
    | true =>
      cases hseen : isUnseenBefore past.reverse with
      | true => rfl
      | false =>
        have hbound := boundBefore_of_binds hreads hbinds hseen
        rw [hbehind, hbefore] at hbound
        cases hbound
  · cases hbinds : (rest.find? Element.isToken).any bindsAfter with
    | false => rfl
    | true =>
      cases hseen : isUnseenAfter rest with
      | true => rfl
      | false =>
        have hbound := boundAfter_of_binds htail hbinds hseen
        rw [hrest, hafter] at hbound
        cases hbound

/-! ## Quiet scripts -/

/-- In a search that finds comparisons at literals only, each one is made of whole elements. -/
theorem Searched.exists_covers {back es : List Element} {ps qs : List (Piece (Option Bool))}
    {value : Option Bool} {covered : Text}
    (h : Searched back es (ps ++ .site value covered :: qs)) :
    ∃ past rest, es = past ++ rest ∧ text past = ps.flatMap Piece.source := by
  generalize hall : ps ++ .site value covered :: qs = all at h
  induction h generalizing ps with
  | done => cases ps <;> cases hall
  | @pass back es e more h ih =>
    have hsource : (e.source.map (Piece.plain (α := Option Bool))).flatMap Piece.source = e.source := by
      rw [List.flatMap_map]
      exact List.flatMap_singleton' e.source
    rcases List.append_eq_append_iff.1 hall with ⟨m, hm, hmore⟩ | ⟨m, rfl, hmore⟩
    · cases m with
      | nil =>
        obtain ⟨past, rest, rfl, hpast⟩ := @ih [] hmore
        rw [List.append_nil] at hm
        refine ⟨e :: past, rest, rfl, ?_⟩
        rw [text_cons, hpast, ← hm, hsource, List.flatMap_nil, List.append_nil]
      | cons p m =>
        have hmem : p ∈ e.source.map .plain := by simp [hm]
        obtain ⟨c, -, rfl⟩ := List.mem_map.1 hmem
        cases (List.cons.inj hmore).1
    · obtain ⟨past, rest, rfl, hpast⟩ := ih hmore.symm
      refine ⟨e :: past, rest, rfl, ?_⟩
      rw [text_cons, hpast, List.flatMap_append, hsource]
  | @found back es w value' more h ih =>
    cases ps with
    | nil => exact ⟨[], _, rfl, rfl⟩
    | cons p ps =>
      obtain ⟨rfl, hmore⟩ := List.cons.inj hall
      obtain ⟨past, rest, rfl, hpast⟩ := ih hmore
      refine ⟨elementsOf w ++ past, rest, by rw [List.append_assoc], ?_⟩
      rw [text_append, text_elementsOf, hpast]
      rfl

theorem flatMap_outcome (t : Text) : Comparison.fold t = (pieces site t).flatMap outcome := by
  have hedit : (Piece.edit fun (value : Option Bool) covered => (value.map truthText).getD covered) =
      outcome := by
    funext p
    cases p with
    | plain c => rfl
    | site value covered => cases value <;> rfl
  rw [Comparison.fold, replaceSites, hedit]

/-- **What is folded is a comparison of the script** whose literals are its operands exactly if it is
made of whole elements and no neighbour that binds one of them is overlooked. In a quiet script it is
made of whole elements, and a comparison. Nothing else is changed. -/
theorem fold_right_iff {t : Text} {es : List Element} (h : Reads t es) :
    (∀ before covered after, Replaced t before covered after →
      (IsRight es before covered ↔ ∃ past middle rest,
        Covers es past middle rest before covered ∧ isOverlooked past rest = false)) ∧
    ((∀ e ∈ es, e.isQuiet = true) → ∀ before covered after, Replaced t before covered after →
      ∃ past middle rest, Covers es past middle rest before covered ∧ IsComparison middle) ∧
    (pieces site t).flatMap Piece.source = t ∧
      Comparison.fold t = (pieces site t).flatMap outcome := by
  refine ⟨fun before covered after hr => ⟨?_, ?_⟩, fun hquiet before covered after hr => ?_,
    flatMap_source_pieces site t, flatMap_outcome t⟩
  · rintro ⟨past, middle, rest, hc, -, hbound⟩
    exact ⟨past, middle, rest, hc, (hr.isBound_eq h hc).symm.trans hbound⟩
  · rintro ⟨past, middle, rest, hc, hseen⟩
    have hsplit := hc.split
    subst hsplit
    obtain ⟨middle', rest', hc', hcomparison⟩ := hr.covers h hc.before_eq
    obtain ⟨-, rfl, rfl⟩ := hc.inj h hc'
    exact ⟨past, middle, rest, hc, hcomparison, (hr.isBound_eq h hc).trans hseen⟩
  · obtain ⟨ps, b, qs, hpieces, rfl, rfl⟩ := hr
    have hsearched : Searched [] es (pieces site t) := h.searched hquiet false
    rw [hpieces] at hsearched
    obtain ⟨past, rest, rfl, hpast⟩ := hsearched.exists_covers
    obtain ⟨middle, rest', hc, hcomparison⟩ :=
      Replaced.covers ⟨ps, b, qs, hpieces, rfl, rfl⟩ h hpast
    exact ⟨past, middle, rest', hc, hcomparison⟩

/-- Nothing binds a comparison that is assigned. -/
theorem fold_right_assignment : ∃ es, Reads "same = 'pg' === \"pg\";".toList es ∧
    Replaced "same = 'pg' === \"pg\";".toList "same = ".toList "'pg' === \"pg\"".toList [';'] ∧
    IsRight es "same = ".toList "'pg' === \"pg\"".toList := by
  let past : List Element := ⟨.word, "same".toList⟩ :: (spaces [' '] ++ ⟨.punctuator, ['=']⟩ ::
    spaces [' '])
  let middle : List Element := literal '\'' "pg".toList :: (spaces [' '] ++
    ⟨.punctuator, "===".toList⟩ :: (spaces [' '] ++ [literal '"' "pg".toList]))
  let rest : List Element := [⟨.punctuator, [';']⟩]
  have hreads : Reads "same = 'pg' === \"pg\";".toList (past ++ (middle ++ rest)) := by
    decide +kernel
  have hreplaced : Replaced "same = 'pg' === \"pg\";".toList "same = ".toList
      "'pg' === \"pg\"".toList [';'] :=
    ⟨"same = ".toList.map .plain, true, [.plain ';'], by decide +kernel, rfl, rfl⟩
  exact ⟨_, hreads, hreplaced, ((fold_right_iff hreads).1 _ _ _ hreplaced).2
    ⟨past, middle, rest, ⟨rfl, rfl, rfl⟩, by decide +kernel⟩⟩

/-- A comment between an operator and a literal hides the operator. -/
theorem fold_overlooks_operator :
    ∃ es, Reads "const s = 'a' + // left\n  'b' === 'ab'\n".toList es ∧
      Replaced "const s = 'a' + // left\n  'b' === 'ab'\n".toList
        "const s = 'a' + // left\n  ".toList "'b' === 'ab'".toList ['\n'] ∧
      ¬ IsRight es "const s = 'a' + // left\n  ".toList "'b' === 'ab'".toList ∧
      Comparison.fold "const s = 'a' + // left\n  'b' === 'ab'\n".toList =
        "const s = 'a' + // left\n  false\n".toList := by
  let past : List Element := ⟨.word, "const".toList⟩ :: (spaces [' '] ++ ⟨.word, ['s']⟩ ::
    (spaces [' '] ++ ⟨.punctuator, ['=']⟩ :: (spaces [' '] ++ literal '\'' ['a'] ::
      (spaces [' '] ++ ⟨.punctuator, ['+']⟩ :: (spaces [' '] ++ ⟨.lineComment, "// left".toList⟩ ::
        spaces ['\n', ' ', ' '])))))
  let middle : List Element := literal '\'' ['b'] :: (spaces [' '] ++
    ⟨.punctuator, "===".toList⟩ :: (spaces [' '] ++ [literal '\'' "ab".toList]))
  let rest : List Element := spaces ['\n']
  have hreads : Reads "const s = 'a' + // left\n  'b' === 'ab'\n".toList
      (past ++ (middle ++ rest)) := by decide +kernel
  have hcovers : Covers (past ++ (middle ++ rest)) past middle rest
      "const s = 'a' + // left\n  ".toList "'b' === 'ab'".toList := ⟨rfl, rfl, rfl⟩
  refine ⟨_, hreads, ⟨"const s = 'a' + // left\n  ".toList.map .plain, false, [.plain '\n'],
    by decide +kernel, rfl, rfl⟩, ?_, by decide +kernel⟩
  rintro ⟨past', middle', rest', hcovers', -, hbound⟩
  obtain ⟨rfl, -, rfl⟩ := hcovers.inj hreads hcovers'
  exact absurd hbound (by decide +kernel)

end Multidialect.Script
