import Multidialect.Text.Basic
import Mathlib.Data.List.Basic

/-! # Where a part first occurs

A text is cut at a part where the part first occurs (`splitOnce?_eq_some_iff`), so it is not cut exactly
if the part occurs nowhere (`splitOnce?_eq_none_iff`).
-/

namespace Multidialect.Text

variable {part before before' t : Text}

/-- A part stands in a text behind `before`, and nowhere earlier. -/
structure OccursFirst (part before t : Text) : Prop where
  occurs : before ++ part <+: t
  first : ∀ other, other ++ part <+: t → before <+: other

namespace OccursFirst

theorem unique (h : OccursFirst part before t) (h' : OccursFirst part before' t) :
    before = before' :=
  (h.first _ h'.occurs).eq_of_length_le (h'.first _ h.occurs).length_le

theorem isInfix (h : OccursFirst part before t) : part <:+: t :=
  (List.suffix_append before part).isInfix.trans h.occurs.isInfix

/-- What does not start a text occurs first where it does in the rest. -/
theorem cons {c : Char} (h : OccursFirst part before t) (hc : ¬ part <+: c :: t) :
    OccursFirst part (c :: before) (c :: t) where
  occurs := List.cons_prefix_cons.2 ⟨rfl, h.occurs⟩
  first other hother := by
    cases other with
    | nil => exact absurd hother hc
    | cons d other =>
      obtain ⟨rfl, hrest⟩ := List.cons_prefix_cons.1 hother
      exact List.cons_prefix_cons.2 ⟨rfl, h.first other hrest⟩

end OccursFirst

theorem isPrefixOf?_eq_none_iff : part.isPrefixOf? t = none ↔ ¬ part <+: t := by
  rw [Option.eq_none_iff_forall_ne_some]
  constructor
  · rintro h ⟨rest, rfl⟩
    exact h rest (isPrefixOf?_eq_some.2 rfl)
  · exact fun h rest hrest => h ⟨rest, (isPrefixOf?_eq_some.1 hrest).symm⟩

theorem splitOnce?_eq_none_iff : splitOnce? part t = none ↔ ¬ part <:+: t := by
  induction t with
  | nil => simp [splitOnce?]
  | cons c t ih =>
    rw [List.infix_cons_iff, not_or, ← ih, ← isPrefixOf?_eq_none_iff, splitOnce?]
    split
    · rename_i rest hrest
      simp [hrest]
    · rename_i hnone
      simp [hnone]

theorem occursFirst_of_splitOnce? {after : Text} (h : splitOnce? part t = some (before, after)) :
    OccursFirst part before t := by
  induction t generalizing before with
  | nil =>
    simp only [splitOnce?, Option.ite_none_right_eq_some, Option.some.injEq, Prod.mk.injEq] at h
    obtain ⟨rfl, rfl, -⟩ := h
    exact ⟨List.prefix_rfl, fun other _ => List.nil_prefix⟩
  | cons c t ih =>
    rw [splitOnce?] at h
    split at h
    · rename_i rest hrest
      obtain ⟨rfl, -⟩ := Prod.mk.inj (Option.some.inj h)
      exact ⟨⟨rest, (isPrefixOf?_eq_some.1 hrest).symm⟩, fun other _ => List.nil_prefix⟩
    · rename_i hnone
      obtain ⟨⟨front, back⟩, hsplit, hfront⟩ := Option.map_eq_some_iff.1 h
      obtain ⟨rfl, rfl⟩ := Prod.mk.inj hfront
      exact (ih hsplit).cons (isPrefixOf?_eq_none_iff.1 hnone)

theorem exists_occursFirst (h : part <:+: t) :
    ∃ before after, splitOnce? part t = some (before, after) ∧ OccursFirst part before t := by
  cases hsplit : splitOnce? part t with
  | none => exact absurd h (splitOnce?_eq_none_iff.1 hsplit)
  | some found => exact ⟨found.1, found.2, rfl, occursFirst_of_splitOnce? hsplit⟩

/-- **A text is cut** where the part first occurs. -/
theorem splitOnce?_eq_some_iff {after : Text} :
    splitOnce? part t = some (before, after) ↔
      OccursFirst part before t ∧ t = before ++ part ++ after := by
  constructor
  · exact fun h => ⟨occursFirst_of_splitOnce? h, splitOnce?_append h⟩
  · rintro ⟨hbefore, htext⟩
    obtain ⟨front, back, hsplit, hfront⟩ := exists_occursFirst hbefore.isInfix
    obtain rfl := hfront.unique hbefore
    obtain rfl := List.append_cancel_left ((splitOnce?_append hsplit).symm.trans htext)
    exact hsplit

end Multidialect.Text
