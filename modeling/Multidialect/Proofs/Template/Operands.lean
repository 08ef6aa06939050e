import Multidialect.Manifest.Name
import Multidialect.Proofs.Template.Comparisons
import Multidialect.Proofs.Text.Identifiers

/-! # Which operands become the dialect's name

The placeholder is searched for twice, in front of an operator and then behind one, and a site covers
the operator and a character more than the name. So a site hides what starts in its last character:

* a name is crowded (`isCrowded`) if it stands directly behind the operator of a site of the first
  search. The second search comes back to it.
* a name is missed (`isMissed`) if no operator follows it, and the one that precedes it starts
  directly behind a crowded name. The second search covers the first character of that operator.

This module says where operators stand, and which places a chain of names and operators links.
-/

namespace Multidialect

open Text
open Unicode (forall_ascii toNat_lt_of_val_le)

namespace NameFault

theorem toNat_lt_of_canFollow {c : Char} (h : canFollow c = true) : c.toNat < 128 := by
  rcases Bool.or_eq_true_iff.1 h with h | h
  · rcases Bool.or_eq_true_iff.1 h with h | h
    · rcases Bool.or_eq_true_iff.1 h with halpha | hdigit
      · rcases Bool.or_eq_true_iff.1 halpha with hupper | hlower
        · exact toNat_lt_of_val_le (of_decide_eq_true hupper).2 (by decide)
        · exact toNat_lt_of_val_le (of_decide_eq_true (Bool.and_eq_true_iff.1 hlower).2) (by decide)
      · exact toNat_lt_of_val_le (of_decide_eq_true (Bool.and_eq_true_iff.1 hdigit).2) (by decide)
    · obtain rfl := beq_iff_eq.1 h
      decide
  · obtain rfl := beq_iff_eq.1 h
    decide

theorem isIdentifierChar_of_canFollow {c : Char} (h : canFollow c = true) :
    isIdentifierChar c = true :=
  forall_ascii (P := fun c => canFollow c = true → isIdentifierChar c = true) (by decide)
    (toNat_lt_of_canFollow h) h

theorem canFollow_of_mem {name : Text} (h : find? name = none) {c : Char} (hc : c ∈ name) :
    canFollow c = true := by
  have hstart : ∀ d, canStart d = true → canFollow d = true := by
    intro d hd
    simp only [canStart, canFollow, Char.isAlphanum, Bool.or_eq_true] at hd ⊢
    tauto
  unfold find? at h
  split at h
  · cases hc
  · split at h
    · cases h
    · rename_i hfirst
      split at h
      · cases h
      · rename_i hrest
        simp only [Bool.not_eq_true', Bool.not_eq_false, List.all_eq_true] at hfirst hrest
        rcases List.mem_cons.1 hc with rfl | hc
        · exact hstart _ hfirst
        · exact hrest c hc

theorem isWhole {name : Text} (h : find? name = none) : IsWhole name where
  ne_nil := by
    rintro rfl
    cases h
  identifier _ hc := isIdentifierChar_of_canFollow (canFollow_of_mem h hc)

end NameFault

namespace Placeholder

open Comparison

/-! ## Where operators stand -/

/-- Whether an operator follows, up to white space. -/
def isAhead (rest : Text) : Bool := (comparison? (trimStart rest)).isSome

/-- What stands before the operator that a text ends with. Both are given last character first. -/
def operatorBehind? : Text → Option Text
  | '=' :: '=' :: c :: before => if c = '=' ∨ c = '!' then some before else none
  | _ => none

/-- Whether an operator precedes, up to white space. -/
def isBehind (before : Text) : Bool := (operatorBehind? (trimStart before)).isSome

theorem sign_eq (negated : Bool) : ∃ c, sign negated = [c, '=', '='] := by
  cases negated
  · exact ⟨'=', rfl⟩
  · exact ⟨'!', rfl⟩

theorem sign_foreign (negated : Bool) : IsForeign (sign negated) := by
  have hequals : isIdentifierChar '=' = false := by decide
  have hmark : isIdentifierChar '!' = false := by decide
  cases negated <;> simp [IsForeign, sign, hequals, hmark]

theorem sign_reverse_not_blank (negated : Bool) (before : Text) :
    ((sign negated).reverse ++ before).head?.any isBlank = false := by
  have hequals : isBlank '=' = false := by decide
  cases negated <;> simp [sign, hequals]

theorem comparison?_isSome_iff {t : Text} :
    (comparison? t).isSome = true ↔ ∃ negated v, t = sign negated ++ v := by
  constructor
  · intro h
    obtain ⟨⟨op, v⟩, h⟩ := Option.isSome_iff_exists.1 h
    obtain ⟨negated, rfl, ht⟩ := comparison?_iff.1 h
    exact ⟨negated, v, ht⟩
  · rintro ⟨negated, v, rfl⟩
    rw [comparison?_iff.2 ⟨negated, rfl, rfl⟩]
    rfl

theorem isAhead_iff {rest : Text} : isAhead rest = true ↔
    ∃ ws negated v, (∀ c ∈ ws, isBlank c = true) ∧ rest = ws ++ (sign negated ++ v) := by
  rw [isAhead, comparison?_isSome_iff]
  constructor
  · rintro ⟨negated, v, h⟩
    exact ⟨rest.takeWhile isBlank, negated, v, all_takeWhile, by
      rw [← h, takeWhile_append_trimStart]⟩
  · rintro ⟨ws, negated, v, hws, rfl⟩
    exact ⟨negated, v, trimStart_of_run hws (sign_not_blank negated v)⟩

theorem operatorBehind?_iff {before b : Text} :
    operatorBehind? before = some b ↔ ∃ negated, before = (sign negated).reverse ++ b := by
  constructor
  · intro h
    unfold operatorBehind? at h
    split at h
    · split at h
      · rename_i hc
        obtain rfl := Option.some.inj h
        rcases hc with rfl | rfl
        · exact ⟨false, rfl⟩
        · exact ⟨true, rfl⟩
      · cases h
    · cases h
  · rintro ⟨negated, rfl⟩
    cases negated <;> rfl

theorem isBehind_iff {before : Text} : isBehind before = true ↔
    ∃ ws negated b, (∀ c ∈ ws, isBlank c = true) ∧ before = ws ++ ((sign negated).reverse ++ b) := by
  constructor
  · intro h
    obtain ⟨b, hb⟩ := Option.isSome_iff_exists.1 h
    obtain ⟨negated, hsign⟩ := operatorBehind?_iff.1 hb
    exact ⟨before.takeWhile isBlank, negated, b, all_takeWhile, by
      rw [← hsign, takeWhile_append_trimStart]⟩
  · rintro ⟨ws, negated, b, hws, rfl⟩
    rw [isBehind, trimStart_of_run hws (sign_reverse_not_blank negated b),
      operatorBehind?_iff.2 ⟨negated, rfl⟩]
    rfl

/-- An operator with white space in front of it is told by what it starts. -/
theorem space_sign_inj {ws ws' v v' : Text} {negated negated' : Bool}
    (hws : ∀ c ∈ ws, isBlank c = true) (hws' : ∀ c ∈ ws', isBlank c = true)
    (h : ws ++ (sign negated ++ v) = ws' ++ (sign negated' ++ v')) :
    ws = ws' ∧ negated = negated' ∧ v = v' := by
  obtain ⟨hspace, hrest⟩ :=
    run_unique h hws (sign_not_blank negated v) hws' (sign_not_blank negated' v')
  refine ⟨hspace, ?_⟩
  cases negated <;> cases negated' <;> simp_all [sign]

/-- An operator with white space behind it is told by what it ends. -/
theorem space_sign_reverse_inj {ws ws' b b' : Text} {negated negated' : Bool}
    (hws : ∀ c ∈ ws, isBlank c = true) (hws' : ∀ c ∈ ws', isBlank c = true)
    (h : ws ++ ((sign negated).reverse ++ b) = ws' ++ ((sign negated').reverse ++ b')) :
    ws = ws' ∧ negated = negated' ∧ b = b' := by
  obtain ⟨hspace, hrest⟩ :=
    run_unique h hws (sign_reverse_not_blank negated b) hws' (sign_reverse_not_blank negated' b')
  refine ⟨hspace, ?_⟩
  cases negated <;> cases negated' <;> simp_all [sign]

theorem isApart_of_isBehind {before : Text} (h : isBehind before = true) :
    isApart before = true := by
  obtain ⟨ws, negated, b, hws, rfl⟩ := isBehind_iff.1 h
  obtain ⟨c, hsign⟩ := sign_eq negated
  cases ws with
  | nil =>
    rw [hsign]
    exact isApart_of_foreign (by decide)
  | cons d ws => exact isApart_of_foreign (isForeign_of_blank hws d (.head _))

theorem isApart_of_isAhead {rest : Text} (h : isAhead rest = true) : isApart rest = true := by
  obtain ⟨ws, negated, v, hws, rfl⟩ := isAhead_iff.1 h
  obtain ⟨c, hsign⟩ := sign_eq negated
  cases ws with
  | nil =>
    rw [hsign]
    exact isApart_of_foreign (sign_foreign negated c (by simp [hsign]))
  | cons d ws => exact isApart_of_foreign (isForeign_of_blank hws d (.head _))

/-! ## What a site hides -/

/-- Whether a place that is linked to earlier ones is the second, the fourth and so on of its chain:
`link` goes back from one place to the one before it. -/
def alternates (link : Text → Option Text) (before : Text) : Bool :=
  match link before with
  | some b => if b.length < before.length then !alternates link b else false
  | none => false
termination_by before.length

/-- The place before a name whose operator ends here. -/
def leftLink (name before : Text) : Option Text := do
  let b ← operatorBehind? before
  let b ← stripStart? name.reverse (trimStart b)
  if isApart b then some b else none

/-- The place before a name that stands behind an operator and directly in front of another one,
which ends here up to white space. -/
def rightLink (name before : Text) : Option Text := do
  let b ← operatorBehind? (trimStart before)
  let b ← stripStart? name.reverse b
  if isBehind b then some b else none

/-- Whether a site of the first search ends here, with its operator. -/
def isCrowded (name : Text) : Text → Bool := alternates (leftLink name)

/-- Whether a site of the second search ends with the first character of the operator here. -/
def isHidden (name : Text) : Text → Bool := alternates (rightLink name)

/-- Whether neither search comes to the name here, though it is an operand. -/
def isMissed (name before rest : Text) : Bool :=
  !isAhead rest && (rightLink name before).any (isCrowded name)

section Links

variable {name : Text}

theorem leftLink_iff (hname : IsWhole name) {before b : Text} : leftLink name before = some b ↔
    isApart b = true ∧ ∃ negated ws, (∀ c ∈ ws, isBlank c = true) ∧
      before = (sign negated).reverse ++ (ws ++ (name.reverse ++ b)) := by
  constructor
  · intro h
    obtain ⟨more, hmore, h⟩ := Option.bind_eq_some_iff.1 h
    obtain ⟨b', hb', h⟩ := Option.bind_eq_some_iff.1 h
    split at h
    · rename_i hapart
      obtain rfl := Option.some.inj h
      obtain ⟨negated, rfl⟩ := operatorBehind?_iff.1 hmore
      refine ⟨hapart, negated, more.takeWhile isBlank, all_takeWhile, ?_⟩
      rw [← stripStart?_eq_some.1 hb', takeWhile_append_trimStart]
    · cases h
  · rintro ⟨hapart, negated, ws, hws, rfl⟩
    have hhead : (name.reverse ++ b).head?.any isBlank = false := by
      obtain ⟨c, rest, hc⟩ := List.exists_cons_of_ne_nil hname.reverse.ne_nil
      have hid := hname.reverse.identifier c (by simp [hc])
      rw [hc]
      refine Bool.eq_false_iff.2 fun hblank => ?_
      have hforeign : IsForeign [c] := isForeign_of_blank (by simpa using hblank)
      rw [hforeign c (.head _)] at hid
      cases hid
    rw [leftLink, operatorBehind?_iff.2 ⟨negated, rfl⟩]
    simp only [Option.bind_eq_bind, Option.bind_some, trimStart_of_run hws hhead,
      stripStart?_eq_some.2 (rfl (a := name.reverse ++ b)), hapart, if_true]

theorem rightLink_iff {before b : Text} : rightLink name before = some b ↔
    isBehind b = true ∧ ∃ ws negated, (∀ c ∈ ws, isBlank c = true) ∧
      before = ws ++ ((sign negated).reverse ++ (name.reverse ++ b)) := by
  constructor
  · intro h
    obtain ⟨more, hmore, h⟩ := Option.bind_eq_some_iff.1 h
    obtain ⟨b', hb', h⟩ := Option.bind_eq_some_iff.1 h
    split at h
    · rename_i hbehind
      obtain rfl := Option.some.inj h
      obtain ⟨negated, hsign⟩ := operatorBehind?_iff.1 hmore
      refine ⟨hbehind, before.takeWhile isBlank, negated, all_takeWhile, ?_⟩
      rw [← stripStart?_eq_some.1 hb', ← hsign, takeWhile_append_trimStart]
    · cases h
  · rintro ⟨hbehind, ws, negated, hws, rfl⟩
    rw [rightLink, trimStart_of_run hws (sign_reverse_not_blank negated _),
      operatorBehind?_iff.2 ⟨negated, rfl⟩]
    simp only [Option.bind_eq_bind, Option.bind_some,
      stripStart?_eq_some.2 (rfl (a := name.reverse ++ b)), hbehind, if_true]

theorem alternates_of_link {link : Text → Option Text} {before b : Text} (h : link before = some b)
    (hlt : b.length < before.length) : alternates link before = !alternates link b := by
  rw [alternates, h]
  exact if_pos hlt

theorem exists_link {link : Text → Option Text} {before : Text}
    (h : alternates link before = true) :
    ∃ b, link before = some b ∧ alternates link b = false := by
  rw [alternates] at h
  split at h
  · rename_i b hb
    split at h
    · exact ⟨b, hb, by simpa using h⟩
    · cases h
  · cases h

theorem isCrowded_of_link (hname : IsWhole name) {before b : Text}
    (h : leftLink name before = some b) : isCrowded name before = !isCrowded name b := by
  refine alternates_of_link h ?_
  obtain ⟨-, negated, ws, -, rfl⟩ := (leftLink_iff hname).1 h
  have := List.length_pos_iff.2 hname.ne_nil
  simp only [List.length_append, List.length_reverse]
  omega

theorem isHidden_of_link (hname : IsWhole name) {before b : Text}
    (h : rightLink name before = some b) : isHidden name before = !isHidden name b := by
  refine alternates_of_link h ?_
  obtain ⟨-, ws, negated, -, rfl⟩ := rightLink_iff.1 h
  have := List.length_pos_iff.2 hname.ne_nil
  simp only [List.length_append, List.length_reverse]
  omega

end Links

end Placeholder

end Multidialect
