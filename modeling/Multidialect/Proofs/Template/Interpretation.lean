import Multidialect.Proofs.Template.Directives
import Mathlib.Data.List.Basic

/-! # Which lines are interpreted

What stands below a removal is taken out without being looked at, a directive or not. So a line is
dropped when the line above it is interpreted and is a removal for the dialect (`Directive.dropped`),
and interpreted otherwise. Directives are carried out if no interpreted line is at fault, and give
what each interpreted line gives, one after another; if not, the error is the fault of the first such
line (`Directive.resolve_interprets`).
-/

namespace Multidialect.Directive

open Text

/-- A line that asks to take out the line below it for the dialect `d`. -/
def removes (d : Dialect) (line : Text) : Bool :=
  decide (parse? line = some ⟨d.name.toList, .removeNextLine⟩)

/-- Whether the line with index `i` is taken out by the line above it, which must not be taken out
itself. -/
def dropped (d : Dialect) (ls : List Text) : Nat → Bool
  | 0 => false
  | i + 1 => !dropped d ls i && ls[i]?.any (removes d)

/-- The directive of the line with index `i`, if the line is interpreted. -/
def directiveAt? (d : Dialect) (ls : List Text) (i : Nat) : Option Directive :=
  if dropped d ls i then none else ls[i]?.bind parse?

/-- The tag is a dialect's name. -/
def IsTagged (x : Directive) : Prop := ∃ e : Dialect, x.tag = e.name.toList

/-- What a line without a directive is kept as, and what a directive leaves behind for `d`: an
insertion for `d` its code at the indentation of the line and with its terminator
(`lineEnding_eq_iff`), any other nothing. -/
def given (d : Dialect) (line : Text) : Text :=
  match parse? line with
  | none => line
  | some ⟨tag, .insert code⟩ =>
    if tag = d.name.toList then indentation line ++ code ++ lineEnding line else []
  | some ⟨_, .removeNextLine⟩ => []

/-- What the line with index `i` gives: nothing if it is dropped. -/
def givenAt (d : Dialect) (ls : List Text) (i : Nat) : Text :=
  if dropped d ls i then [] else (ls[i]?).elim [] (given d)

/-- What is wrong with a directive on line `n`, which may be the last one. -/
inductive IsFault (n : Nat) (last : Prop) (x : Directive) : Fault → Prop
  | emptyTag (tag : x.tag = []) : IsFault n last x (.emptyTag n)
  | unknownTag (ne_nil : x.tag ≠ []) (tag : ¬ x.IsTagged) :
      IsFault n last x (.unknownTag (String.ofList x.tag) n)
  | danglingRemove (tag : x.IsTagged) (action : x.action = .removeNextLine) (isLast : last) :
      IsFault n last x (.danglingRemove (String.ofList x.tag) n)

/-! ## Tags -/

theorem toList_name_ne_nil (d : Dialect) : d.name.toList ≠ [] := by cases d <;> decide

theorem toList_name_inj {d e : Dialect} : d.name.toList = e.name.toList ↔ d = e := by
  rw [String.toList_inj, Dialect.name_inj]

theorem target_eq_ok {x : Directive} {n : Nat} {e : Dialect} :
    x.target n = .ok e ↔ x.tag = e.name.toList := by
  unfold target
  split
  · rename_i hnil
    simp [hnil, (toList_name_ne_nil e).symm]
  · split
    · rename_i e' htag
      have hname := congrArg String.toList (Dialect.ofTag?_eq_some.1 htag)
      rw [String.toList_ofList] at hname
      rw [hname, toList_name_inj]
      simp
    · rename_i hnone
      refine iff_of_false (by simp) fun htag => ?_
      rw [htag, String.ofList_toList, Dialect.ofTag?_name] at hnone
      cases hnone

theorem isTagged_iff {x : Directive} (n : Nat) : x.IsTagged ↔ ∃ e, x.target n = .ok e :=
  exists_congr fun _ => target_eq_ok.symm

/-- A directive without a proper tag is at fault, wherever it stands. -/
theorem isFault_of_target {x : Directive} {n : Nat} {last : Prop} {f : Fault}
    (h : x.target n = .error f) : IsFault n last x f := by
  have htag : ¬ x.IsTagged := by
    rw [isTagged_iff n, h]
    simp
  unfold target at h
  split at h
  · rename_i hnil
    obtain rfl := Except.error.inj h
    exact .emptyTag hnil
  · rename_i hne
    split at h
    · cases h
    · obtain rfl := Except.error.inj h
      exact .unknownTag hne htag

theorem isTagged_ne_nil {x : Directive} (h : x.IsTagged) : x.tag ≠ [] := by
  obtain ⟨e, he⟩ := h
  rw [he]
  exact toList_name_ne_nil e

/-- A directive is at fault in one way at most. -/
theorem IsFault.unique {x : Directive} {n : Nat} {last : Prop} {f f' : Fault}
    (h : IsFault n last x f) (h' : IsFault n last x f') : f = f' := by
  cases h with
  | emptyTag hnil =>
    cases h' with
    | emptyTag => rfl
    | unknownTag hne => exact absurd hnil hne
    | danglingRemove htag => exact absurd hnil (isTagged_ne_nil htag)
  | unknownTag hne htag =>
    cases h' with
    | emptyTag hnil => exact absurd hnil hne
    | unknownTag => rfl
    | danglingRemove htag' => exact absurd htag' htag
  | danglingRemove htag =>
    cases h' with
    | emptyTag hnil => exact absurd hnil (isTagged_ne_nil htag)
    | unknownTag _ htag' => exact absurd htag htag'
    | danglingRemove => rfl

/-- A directive is at fault if its tag is no dialect's, or if it is a removal on the last line. -/
theorem exists_isFault_iff {x : Directive} {n : Nat} {last : Prop} :
    (∃ f, IsFault n last x f) ↔ ¬ (x.IsTagged ∧ (x.action = .removeNextLine → ¬ last)) := by
  constructor
  · rintro ⟨f, hf⟩ ⟨htag, haction⟩
    cases hf with
    | emptyTag hnil => exact isTagged_ne_nil htag hnil
    | unknownTag _ hno => exact hno htag
    | danglingRemove _ hremove hlast => exact haction hremove hlast
  · intro h
    by_cases htag : x.IsTagged
    · obtain ⟨hremove, hlast⟩ := Classical.not_imp.1 fun hno => h ⟨htag, hno⟩
      exact ⟨_, .danglingRemove htag hremove (Classical.not_not.1 hlast)⟩
    · cases htarget : x.target n with
      | error f => exact ⟨f, isFault_of_target htarget⟩
      | ok e => exact absurd ((isTagged_iff n).2 ⟨e, htarget⟩) htag

/-! ## The lines below a line -/

theorem dropped_cons {d : Dialect} {line : Text} (h : removes d line = false) (ls : List Text)
    (i : Nat) : dropped d (line :: ls) (i + 1) = dropped d ls i := by
  induction i with
  | zero => simp [dropped, h]
  | succ i ih => rw [dropped, ih, List.getElem?_cons_succ, dropped]

theorem dropped_below {d : Dialect} {line : Text} (h : removes d line = true) (next : Text)
    (ls : List Text) : dropped d (line :: next :: ls) 1 = true := by
  simp [dropped, h]

/-- What is taken out has no say in the lines below it. -/
theorem dropped_cons_cons {d : Dialect} {line : Text} (h : removes d line = true) (next : Text)
    (ls : List Text) (i : Nat) : dropped d (line :: next :: ls) (i + 2) = dropped d ls i := by
  induction i with
  | zero => simp [dropped, h]
  | succ i ih => rw [dropped, ih, List.getElem?_cons_succ, List.getElem?_cons_succ, dropped]

theorem givenAt_zero (d : Dialect) (line : Text) (ls : List Text) :
    givenAt d (line :: ls) 0 = given d line := rfl

theorem givenAt_cons {d : Dialect} {line : Text} (h : removes d line = false) (ls : List Text)
    (i : Nat) : givenAt d (line :: ls) (i + 1) = givenAt d ls i := by
  rw [givenAt, dropped_cons h, List.getElem?_cons_succ, givenAt]

theorem givenAt_cons_cons {d : Dialect} {line : Text} (h : removes d line = true) (next : Text)
    (ls : List Text) (i : Nat) : givenAt d (line :: next :: ls) (i + 2) = givenAt d ls i := by
  rw [givenAt, dropped_cons_cons h, List.getElem?_cons_succ, List.getElem?_cons_succ, givenAt]

/-- The lines give what the first one gives and what those below it give. -/
theorem flatMap_givenAt_cons {d : Dialect} {line : Text} (h : removes d line = false)
    (ls : List Text) :
    (List.range (line :: ls).length).flatMap (givenAt d (line :: ls)) =
      given d line ++ (List.range ls.length).flatMap (givenAt d ls) := by
  rw [List.length_cons, List.range_succ_eq_map, List.flatMap_cons, List.flatMap_map, givenAt_zero]
  simp only [Nat.succ_eq_add_one, givenAt_cons h]

theorem given_of_removes {d : Dialect} {line : Text} (h : removes d line = true) :
    given d line = [] := by
  unfold given
  rw [of_decide_eq_true h]

theorem flatMap_givenAt_cons_cons {d : Dialect} {line : Text} (h : removes d line = true)
    (next : Text) (ls : List Text) :
    (List.range (line :: next :: ls).length).flatMap (givenAt d (line :: next :: ls)) =
      (List.range ls.length).flatMap (givenAt d ls) := by
  have hnext : givenAt d (line :: next :: ls) 1 = [] := by
    rw [givenAt, dropped_below h]
    rfl
  rw [List.length_cons, List.length_cons, List.range_succ_eq_map, List.range_succ_eq_map]
  simp only [List.map_cons, List.map_map, List.flatMap_cons, List.flatMap_map, Function.comp_apply,
    Nat.succ_eq_add_one, Nat.zero_add, hnext, givenAt_zero, given_of_removes h,
    givenAt_cons_cons h, List.nil_append]

/-! ## Carrying directives out -/

/-- The line with index `i` is interpreted and at fault, if the lines are counted from `n`. -/
def FaultAt (d : Dialect) (n : Nat) (ls : List Text) (i : Nat) (f : Fault) : Prop :=
  ∃ x, directiveAt? d ls i = some x ∧ IsFault (n + i) (i + 1 = ls.length) x f

/-- What carrying the directives of lines out comes to. -/
def Yields (d : Dialect) (n : Nat) (ls : List Text) : Except Fault Text → Prop
  | .ok out => (∀ i f, ¬ FaultAt d n ls i f) ∧
      out = (List.range ls.length).flatMap (givenAt d ls)
  | .error f => ∃ i, FaultAt d n ls i f ∧ ∀ j < i, ∀ f', ¬ FaultAt d n ls j f'

theorem FaultAt.lt_length {d : Dialect} {n : Nat} {ls : List Text} {i : Nat} {f : Fault}
    (h : FaultAt d n ls i f) : i < ls.length := by
  obtain ⟨x, hx, -⟩ := h
  unfold directiveAt? at hx
  split at hx
  · cases hx
  · obtain ⟨line, hline, -⟩ := Option.bind_eq_some_iff.1 hx
    exact (List.getElem?_eq_some_iff.1 hline).1

theorem faultAt_zero {d : Dialect} {n : Nat} {line : Text} {ls : List Text} {f : Fault} :
    FaultAt d n (line :: ls) 0 f ↔ ∃ x, parse? line = some x ∧ IsFault n (ls = []) x f := by
  simp [FaultAt, directiveAt?, dropped, eq_comm]

theorem faultAt_cons {d : Dialect} {n : Nat} {line : Text} (h : removes d line = false)
    {ls : List Text} {i : Nat} {f : Fault} :
    FaultAt d n (line :: ls) (i + 1) f ↔ FaultAt d (n + 1) ls i f := by
  simp only [FaultAt, directiveAt?, dropped_cons h, List.getElem?_cons_succ, List.length_cons,
    Nat.add_right_cancel_iff, show n + (i + 1) = n + 1 + i by omega]

theorem faultAt_cons_cons {d : Dialect} {n : Nat} {line : Text} (h : removes d line = true)
    {next : Text} {ls : List Text} {i : Nat} {f : Fault} :
    FaultAt d n (line :: next :: ls) (i + 2) f ↔ FaultAt d (n + 2) ls i f := by
  have hlast : i + 2 + 1 = ls.length + 1 + 1 ↔ i + 1 = ls.length := by omega
  simp only [FaultAt, directiveAt?, dropped_cons_cons h, List.getElem?_cons_succ, List.length_cons,
    hlast, show n + (i + 2) = n + 2 + i by omega]

theorem not_faultAt_below {d : Dialect} {n : Nat} {line : Text} (h : removes d line = true)
    (next : Text) (ls : List Text) (f : Fault) : ¬ FaultAt d n (line :: next :: ls) 1 f := by
  simp [FaultAt, directiveAt?, dropped_below h]

theorem yields_fault {d : Dialect} {n : Nat} {ls : List Text} {f : Fault}
    (h : FaultAt d n ls 0 f) : Yields d n ls (.error f) :=
  ⟨0, h, fun _ hj => absurd hj (Nat.not_lt_zero _)⟩

/-- A line that is kept, or that a directive stands on which takes nothing out. -/
theorem Yields.cons {d : Dialect} {n : Nat} {line : Text} {ls : List Text} {r : Except Fault Text}
    (hline : removes d line = false) (hsound : ∀ f, ¬ FaultAt d n (line :: ls) 0 f)
    (h : Yields d (n + 1) ls r) : Yields d n (line :: ls) (r.map (given d line ++ ·)) := by
  have hbefore : ∀ k, (∀ j < k, ∀ f, ¬ FaultAt d (n + 1) ls j f) →
      ∀ j < k + 1, ∀ f, ¬ FaultAt d n (line :: ls) j f := by
    intro k hk j hj f
    cases j with
    | zero => exact hsound f
    | succ j => exact fun hf => hk j (by omega) f ((faultAt_cons hline).1 hf)
  cases r with
  | ok out =>
    obtain ⟨hall, rfl⟩ := h
    exact ⟨fun i f => hbefore i (fun j _ => hall j) i (by omega) f,
      (flatMap_givenAt_cons hline ls).symm⟩
  | error f =>
    obtain ⟨i, hi, hfirst⟩ := h
    exact ⟨i + 1, (faultAt_cons hline).2 hi, hbefore i hfirst⟩

/-- A removal, and the line that it takes out. -/
theorem Yields.cons_cons {d : Dialect} {n : Nat} {line next : Text} {ls : List Text}
    {r : Except Fault Text} (hline : removes d line = true)
    (hsound : ∀ f, ¬ FaultAt d n (line :: next :: ls) 0 f) (h : Yields d (n + 2) ls r) :
    Yields d n (line :: next :: ls) r := by
  have hbefore : ∀ k, (∀ j < k, ∀ f, ¬ FaultAt d (n + 2) ls j f) →
      ∀ j < k + 2, ∀ f, ¬ FaultAt d n (line :: next :: ls) j f := by
    intro k hk j hj f
    match j with
    | 0 => exact hsound f
    | 1 => exact not_faultAt_below hline next ls f
    | j + 2 => exact fun hf => hk j (by omega) f ((faultAt_cons_cons hline).1 hf)
  cases r with
  | ok out =>
    obtain ⟨hall, rfl⟩ := h
    exact ⟨fun i f => hbefore i (fun j _ => hall j) i (by omega) f,
      (flatMap_givenAt_cons_cons hline next ls).symm⟩
  | error f =>
    obtain ⟨i, hi, hfirst⟩ := h
    exact ⟨i + 2, (faultAt_cons_cons hline).2 hi, hbefore i hfirst⟩

theorem removes_iff {d : Dialect} {line : Text} :
    removes d line = true ↔ parse? line = some ⟨d.name.toList, .removeNextLine⟩ :=
  decide_eq_true_iff

theorem removes_eq_false {d : Dialect} {line : Text} {x : Directive} (h : parse? line = some x)
    (hx : x.tag = d.name.toList → x.action ≠ .removeNextLine) : removes d line = false := by
  refine Bool.eq_false_iff.2 fun hremoves => ?_
  rw [removes_iff, h] at hremoves
  obtain rfl := Option.some.inj hremoves
  exact hx rfl rfl

theorem bind_append (r : Except Fault Text) (t : Text) :
    (do let tail ← r; return t ++ tail) = r.map (t ++ ·) := by
  cases r <;> rfl

theorem map_nil_append (r : Except Fault Text) : r.map ([] ++ ·) = r := by cases r <;> rfl

/-- What carrying the directives of lines out comes to, whatever the dialect and the lines. -/
theorem yields_resolveFrom (d : Dialect) (n : Nat) (ls : List Text) :
    Yields d n ls (resolveFrom d n ls) := by
  fun_induction resolveFrom d n ls with
  | case1 => exact ⟨fun i f h => absurd h.lt_length (Nat.not_lt_zero i), rfl⟩
  | case2 n line rest hnone ih =>
    have hkeep : given d line = line := by rw [given, hnone]
    have hline : removes d line = false := Bool.eq_false_iff.2 fun h => by
      rw [removes_iff, hnone] at h
      cases h
    have hyields := ih.cons hline fun f hf => by
      obtain ⟨x, hx, -⟩ := faultAt_zero.1 hf
      rw [hnone] at hx
      cases hx
    rwa [hkeep, ← bind_append] at hyields
  | case3 n line rest x hparse ihRest ihDropped =>
    cases htarget : x.target n with
    | error f => exact yields_fault (faultAt_zero.2 ⟨x, hparse, isFault_of_target htarget⟩)
    | ok e =>
      obtain ⟨tag, action⟩ := x
      obtain rfl : tag = e.name.toList := target_eq_ok.1 htarget
      -- A directive with a dialect's name is at fault only if nothing is below its removal.
      have hfault : ∀ f, FaultAt d n (line :: rest) 0 f → action = .removeNextLine ∧ rest = [] := by
        intro f hf
        obtain ⟨x, hx, hf⟩ := faultAt_zero.1 hf
        obtain rfl := Option.some.inj (hparse.symm.trans hx)
        cases hf with
        | emptyTag hnil => exact absurd hnil (toList_name_ne_nil e)
        | unknownTag _ hno => exact absurd ⟨e, rfl⟩ hno
        | danglingRemove _ haction hlast => exact ⟨haction, hlast⟩
      rw [ok_bind]
      cases action with
      | insert code =>
        have hgiven : given d line = if e = d then insertedLine line code else [] := by
          rw [given, hparse]
          simp only [toList_name_inj, insertedLine]
        have hline : removes d line = false := removes_eq_false hparse fun _ => by simp
        have hyields := ihRest.cons hline fun f hf => by cases (hfault f hf).1
        rwa [hgiven, ← bind_append] at hyields
      | removeNextLine =>
        cases rest with
        | nil =>
          exact yields_fault (faultAt_zero.2 ⟨_, hparse, .danglingRemove ⟨e, rfl⟩ rfl rfl⟩)
        | cons next rest =>
          have hsound : ∀ f, ¬ FaultAt d n (line :: next :: rest) 0 f := fun f hf => by
            cases (hfault f hf).2
          dsimp only at ihDropped ⊢
          split
          · rename_i hd
            have hline : removes d line = true := removes_iff.2 (hd ▸ hparse)
            exact ihDropped.1.cons_cons hline hsound
          · rename_i hd
            have hline : removes d line = false :=
              removes_eq_false hparse fun htag => absurd (toList_name_inj.1 htag) hd
            have hgiven : given d line = [] := by rw [given, hparse]
            have hyields := ihDropped.2.cons hline hsound
            rwa [hgiven, map_nil_append] at hyields

theorem FaultAt.unique {d : Dialect} {n : Nat} {ls : List Text} {i : Nat} {f f' : Fault}
    (h : FaultAt d n ls i f) (h' : FaultAt d n ls i f') : f = f' := by
  obtain ⟨x, hx, hf⟩ := h
  obtain ⟨x', hx', hf'⟩ := h'
  obtain rfl := Option.some.inj (hx.symm.trans hx')
  exact hf.unique hf'

/-- Carrying directives out comes to one thing. -/
theorem Yields.unique {d : Dialect} {n : Nat} {ls : List Text} {r r' : Except Fault Text}
    (h : Yields d n ls r) (h' : Yields d n ls r') : r = r' := by
  cases r with
  | ok out =>
    cases r' with
    | ok out' => rw [h.2, h'.2]
    | error f' =>
      obtain ⟨i, hi, -⟩ := h'
      exact absurd hi (h.1 i f')
  | error f =>
    obtain ⟨i, hi, hfirst⟩ := h
    cases r' with
    | ok out' => exact absurd hi (h'.1 i f)
    | error f' =>
      obtain ⟨i', hi', hfirst'⟩ := h'
      rcases Nat.lt_trichotomy i i' with hlt | rfl | hgt
      · exact absurd hi (hfirst' i hlt f)
      · rw [hi.unique hi']
      · exact absurd hi' (hfirst i' hgt f')

theorem resolve_eq_iff {d : Dialect} {t : Text} {r : Except Fault Text} :
    resolve d t = r ↔ Yields d 1 (physicalLines t) r := by
  have hyields := yields_resolveFrom d 1 (physicalLines t)
  constructor
  · rintro rfl
    exact hyields
  · exact hyields.unique

theorem forall_not_faultAt_iff {d : Dialect} {n : Nat} {ls : List Text} :
    (∀ i f, ¬ FaultAt d n ls i f) ↔ ∀ i x, directiveAt? d ls i = some x →
      x.IsTagged ∧ (x.action = .removeNextLine → i + 1 ≠ ls.length) := by
  refine forall_congr' fun i => ⟨fun h x hx => ?_, fun h f ⟨x, hx, hf⟩ => ?_⟩
  · by_contra hno
    obtain ⟨f, hf⟩ := exists_isFault_iff.2 hno
    exact h f ⟨x, hx, hf⟩
  · exact exists_isFault_iff.1 ⟨f, hf⟩ (h x hx)

/-- **Directives are carried out line by line from the top.** It succeeds exactly if each directive
that is interpreted has a dialect's name as its tag and none of them is a removal on the last line;
what comes out is what the interpreted lines give. Otherwise the error is the fault of the first
interpreted line that is at fault, with its number. What a line that is put in ends with is the
terminator of the line that it stands for. -/
theorem resolve_interprets (d : Dialect) (t : Text) :
    (∀ out, resolve d t = .ok out ↔
      (∀ i x, directiveAt? d (physicalLines t) i = some x →
        x.IsTagged ∧ (x.action = .removeNextLine → i + 1 ≠ (physicalLines t).length)) ∧
      out = (List.range (physicalLines t).length).flatMap (givenAt d (physicalLines t))) ∧
    (∀ f, resolve d t = .error f ↔ ∃ i, FaultAt d 1 (physicalLines t) i f ∧
      ∀ j < i, ∀ f', ¬ FaultAt d 1 (physicalLines t) j f') ∧
    ∀ line ending, lineEnding line = ending ↔ IsTerminator ending line := by
  refine ⟨fun out => ?_, fun f => resolve_eq_iff, fun line ending => lineEnding_eq_iff⟩
  rw [← forall_not_faultAt_iff (n := 1)]
  exact resolve_eq_iff

/-- A directive that is taken out has no effect, even if its tag is no dialect's. -/
example : (resolve .mysql
    "// mysql-remove-next-line\n// oracle-insert: x\n  // mysql-insert: y\r\n".toList).toOption =
      some "  y\r\n".toList := by decide +kernel

end Multidialect.Directive
