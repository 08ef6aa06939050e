import Multidialect.Proofs.Replacer.CountDecoding
import Multidialect.Proofs.Replacer.Starts
import Multidialect.Proofs.Text.Rewording
import Multidialect.Replacer.Registry

/-! # Replacing once

Where a built-in replacer has been at work for a variant, it finds nothing to do any more
(`Replacer.apply_once`). For calls of the aggregate function this is so because the new term is unlike the
old one. For the decoding of counts, two texts are changed one after the other. Decoding leaves those
closures that it does not change (`CountDecoding.located_decoded`), since neither what takes the place of
one nor what it borders on is a closure. Changing the calls leaves all closures
(`CountDecoding.located_replaceSites_executed`): none of them goes beyond the brace that ends the type of
rows, and one may start with the bracket behind it, which stays.
-/

namespace Multidialect

open Text

namespace CountDecoding

/-! ## Closures in a text that has been changed -/

/-- No closure starts where none started before, if what takes the place of a site is unlike each end of
a closure. -/
theorem closureSite_cons_replaceSites {α : Type} {m : Matcher α} (hm : Forward m) {f : α → Text → Text}
    (hput : ∀ a covered rest, m [] (covered ++ rest) = some (a, covered.length) → f a covered = covered ∨
      ∀ c u x y, Written c u → u = x ++ y → y ≠ [] → Unlike (f a covered) y) {ch : Char} {t : Text}
    (hnone : closureSite [] (ch :: t) = none) : closureSite [] (ch :: replaceSites m f t) = none := by
  rw [closureSite_eq_none_iff] at hnone ⊢
  intro c u hu hpre
  cases u with
  | nil => exact hu.reads.ne_nil rfl
  | cons ch' u =>
    obtain ⟨rfl, hmore⟩ := List.cons_prefix_cons.1 hpre
    refine hnone c _ hu (List.cons_prefix_cons.2 ⟨rfl, hm.prefix_of_replaceSites ?_ hmore⟩)
    exact fun a covered rest ha => (hput a covered rest ha).imp_right
      fun hunlike x y hs => hunlike c _ (ch' :: x) y hu (by rw [hs]; rfl)

/-- **Decoding leaves the closures that it does not change**, and no others. -/
theorem located_decoded {d : Dialect} (hd : d ≠ .pg) (t : Text) :
    located closureSite (replaceSites closureSite (decoded d) t) =
      (located closureSite t).filter fun found => !found.1.isDecoding := by
  induction t using forward_closureSite.pieces_induction with
  | nil =>
    rw [forward_closureSite.replaceSites_nil, forward_closureSite.located_nil]
    rfl
  | plain ch t hnone ih =>
    have hput : ∀ c covered rest, closureSite [] (covered ++ rest) = some (c, covered.length) →
        decoded d c covered = covered ∨ ∀ c' u x y, Written c' u → u = x ++ y → y ≠ [] →
          Unlike (decoded d c covered) y := by
      intro c covered rest hsome
      cases hc : c.isDecoding with
      | false => exact .inl (if_neg (by simp [hc]))
      | true => exact .inr fun c' u x y hu =>
          unlike_decoded hd hc covered hu
    have hnone' := closureSite_cons_replaceSites forward_closureSite hput hnone
    rw [forward_closureSite.replaceSites_plain _ hnone, forward_closureSite.located_plain hnone,
      forward_closureSite.located_plain hnone', ih]
  | site c covered rest hsome ih =>
    have hwritten := written_of_closureSite hsome
    rw [forward_closureSite.replaceSites_site _ hsome, forward_closureSite.located_site hsome,
      List.filter_cons, ← ih]
    cases hc : c.isDecoding with
    | false =>
      have hkept : decoded d c covered = covered := if_neg (by simp [hc])
      rw [hkept, forward_closureSite.located_site (hwritten.closureSite_eq_some _)]
      rfl
    | true =>
      rw [forward_closureSite.located_run fun x y =>
        fun hsplit hy => closureSite_decoded hd hc hwritten.field covered hsplit hy _]
      rfl

/-- **A closure that does not start in the middle of a word is found.** -/
theorem mem_located_of_written {t x covered y : Text} {c : Closure} (h : Written c covered)
    (ht : t = x ++ (covered ++ y))
    (hstart : ¬ (startsWord x.reverse = true ∧ startsWord covered = true)) :
    (c, covered) ∈ located closureSite t := by
  have hback : ∀ {u v : Text}, ¬ (startsWord (u ++ v).reverse = true ∧ startsWord covered = true) →
      ¬ (startsWord v.reverse = true ∧ startsWord covered = true) := by
    rintro u v hnot ⟨hv, hcovered⟩
    have hne : v.reverse ≠ [] := fun hnil => by
      rw [hnil] at hv
      cases hv
    exact hnot ⟨by rw [List.reverse_append, startsWord_append hne, hv], hcovered⟩
  induction t using forward_closureSite.pieces_induction generalizing x with
  | nil => exact absurd (List.append_eq_nil_iff.1 (List.append_eq_nil_iff.1 ht.symm).2).1 h.reads.ne_nil
  | plain ch t hnone ih =>
    rw [forward_closureSite.located_plain hnone]
    cases x with
    | nil =>
      rw [ht, List.nil_append, h.closureSite_eq_some] at hnone
      cases hnone
    | cons d x => exact ih (List.cons.inj ht).2 (hback (u := [d]) hstart)
  | site c₀ covered₀ rest hsome ih =>
    rw [forward_closureSite.located_site hsome]
    rcases List.append_eq_append_iff.1 ht with ⟨k, rfl, hrest⟩ | ⟨z, hcovered, hsame⟩
    · exact .tail _ (ih hrest (hback hstart))
    · by_cases hz : z = []
      · subst hz
        exact .tail _ (ih (x := []) hsame.symm (fun hboth => by cases hboth.1))
      · by_cases hx : x = []
        · subst hx
          obtain rfl : covered₀ = z := hcovered
          rw [← hsame, h.closureSite_eq_some, Option.some.injEq, Prod.mk.injEq] at hsome
          obtain ⟨rfl, hlength⟩ := hsome
          rw [List.append_inj_left hsame hlength]
          exact .head _
        · exact absurd ((written_of_closureSite hsome).within h hcovered hx hz hsame) hstart

/-! ## Closures in a text whose calls have been changed -/

/-- No closure goes beyond a brace. -/
theorem closureSite_append_brace {u v : Text} (h : closureSite [] u = none) (hu : u ≠ []) :
    closureSite [] (u ++ '\x7d' :: v) = none := by
  rw [closureSite_eq_none_iff] at h ⊢
  rintro c covered hwritten ⟨rest, hsame⟩
  rcases List.append_eq_append_iff.1 hsame with ⟨more, rfl, -⟩ | ⟨more, rfl, hbrace⟩
  · exact h c covered hwritten (List.prefix_append covered more)
  · cases more with
    | nil => exact h c _ hwritten (by rw [List.append_nil])
    | cons d more =>
      obtain ⟨rfl, -⟩ := List.cons.inj hbrace
      exact hwritten.reads.noBrace (by simp)

theorem located_append_brace (u v : Text) :
    located closureSite (u ++ '\x7d' :: v) = located closureSite u ++ located closureSite v := by
  have hbrace : closureSite [] ('\x7d' :: v) = none := closureSite_of_bars (s := ['\x7d']) (by decide) v
  induction u using forward_closureSite.pieces_induction with
  | nil =>
    rw [forward_closureSite.located_nil]
    exact forward_closureSite.located_plain hbrace
  | plain ch u hnone ih =>
    rw [forward_closureSite.located_plain hnone, ← ih]
    exact forward_closureSite.located_plain (closureSite_append_brace hnone (List.cons_ne_nil ch u))
  | site c covered rest hsome ih =>
    rw [forward_closureSite.located_site hsome, List.append_assoc,
      forward_closureSite.located_site ((written_of_closureSite hsome).closureSite_eq_some _), ih]
    rfl

theorem located_bars {s : Text} (hs : ∀ y ∈ s.tails, y ≠ [] → bars y = true) (t : Text) :
    located closureSite (s ++ t) = located closureSite t :=
  forward_closureSite.located_run fun x y hsplit hy =>
    closureSite_of_bars (hs y ((List.mem_tails _ _).2 ⟨x, hsplit.symm⟩) hy) t

/-- The closures of the type of rows and what follows it, in a call or in what takes its place. -/
theorem located_type {front back : Text} (hfront : ∀ y ∈ front.tails, y ≠ [] → bars y = true)
    (hback : ∀ y ∈ back.tails, y ≠ [] → bars y = true) (fields rest : Text) :
    located closureSite (front ++ (fields ++ '\x7d' :: (back ++ rest))) =
      located closureSite fields ++ located closureSite rest := by
  rw [located_bars hfront, located_append_brace, located_bars hback]

theorem located_callText (fields rest : Text) : located closureSite (callText fields ++ rest) =
    located closureSite fields ++ located closureSite ('(' :: rest) := by
  have hcall : callText fields ++ rest =
      callFront ++ (fields ++ '\x7d' :: ("[]>".toList ++ '(' :: rest)) := callText_append fields rest
  rw [hcall]
  exact located_type (by decide) (by decide) fields ('(' :: rest)

/-- What stands in front of the type of rows where a variant executes. -/
def executedFront : Dialect → Text
  | .pg => []
  | .mysql => ".execute<[".toList
  | .sqlite => ".get<".toList

/-- What stands behind the type of rows, up to the bracket. -/
def executedBack : Dialect → Text
  | .pg => []
  | .mysql => "[], unknown]>".toList
  | .sqlite => ">".toList

section Executing

variable {d : Dialect} (hd : d ≠ .pg)
include hd

theorem executed_eq (row covered : Text) :
    executed d row covered = executedFront d ++ (row ++ (executedBack d ++ ['('])) := by
  cases d with
  | pg => exact absurd rfl hd
  | mysql =>
    have hback : "[], unknown]>(".toList = executedBack .mysql ++ ['('] := by decide
    rw [← hback, ← List.append_assoc]
    rfl
  | sqlite =>
    have hback : ">(".toList = executedBack .sqlite ++ ['('] := by decide
    rw [← hback, ← List.append_assoc]
    rfl

theorem located_executed (fields covered rest : Text) :
    located closureSite (executed d ('\x7b' :: fields ++ ['\x7d']) covered ++ rest) =
      located closureSite fields ++ located closureSite ('(' :: rest) := by
  have hfront : ∀ y ∈ (executedFront d ++ ['\x7b']).tails, y ≠ [] → bars y = true := by
    cases d <;> decide
  have hback : ∀ y ∈ (executedBack d).tails, y ≠ [] → bars y = true := by
    cases d <;> decide
  rw [← located_type hfront hback, executed_eq hd]
  simp only [List.append_assoc, List.cons_append, List.nil_append]

/-- What takes the place of a call is unlike each end of a closure. -/
theorem unlike_executed {row covered : Text} {c : Closure} {u x y : Text} (hu : Written c u)
    (hsplit : u = x ++ y) (hy : y ≠ []) : Unlike (executed d row covered) y := by
  obtain ⟨name, more, hname, hfront⟩ : ∃ name more, IsName name ∧
      executedFront d = '.' :: (name ++ '<' :: more) := by
    cases d with
    | pg => exact absurd rfl hd
    | mysql =>
      exact ⟨"execute".toList, ['['], ⟨by decide, List.all_eq_true.1 (by decide)⟩, by decide⟩
    | sqlite => exact ⟨"get".toList, [], ⟨by decide, List.all_eq_true.1 (by decide)⟩, by decide⟩
  refine unlike_of_append_ne fun r r' hsame => ?_
  rw [executed_eq hd, hfront] at hsame
  simp only [List.append_assoc, List.cons_append] at hsame
  exact hu.reads.ne_call hsplit hy hname r' _ hsame.symm

/-- **Changing calls leaves all closures.** -/
theorem located_replaceSites_executed (t : Text) :
    located closureSite (replaceSites executeSite (executed d) t) = located closureSite t := by
  induction hlen : t.length using Nat.strongRecOn generalizing t with
  | ind len ih =>
    cases hcall : executeSite [] t with
    | some found =>
      obtain ⟨row, n⟩ := found
      obtain ⟨fields, rest, -, rfl, rfl, rfl⟩ := executeSite_eq_some.1 hcall
      have hbracket : executeSite [] ('(' :: rest) = none := rfl
      -- A closure may start with the bracket at the end of the call.
      have hshort : ('(' :: rest).length < len := by
        have hlength := length_callText fields
        rw [← hlen, List.length_append, hlength, List.length_cons]
        omega
      rw [forward_executeSite.replaceSites_site _ hcall, located_executed hd, located_callText,
        ← forward_executeSite.replaceSites_plain _ hbracket, ih _ hshort _ rfl]
    | none =>
      cases hclosure : closureSite [] t with
      | some found =>
        obtain ⟨c, n⟩ := found
        obtain ⟨covered, rest, rfl, rfl, hwritten⟩ := closureSite_eq_some_iff.1 hclosure
        have hshort : rest.length < len := by
          have hpos := List.length_pos_iff.2 hwritten.reads.ne_nil
          rw [← hlen, List.length_append]
          omega
        rw [forward_executeSite.replaceSites_run _ fun x y hsplit hy =>
            hwritten.reads.executeSite_eq_none hsplit hy [] rest,
          forward_closureSite.located_site (hwritten.closureSite_eq_some _),
          forward_closureSite.located_site hclosure, ih _ hshort _ rfl]
      | none =>
        cases t with
        | nil => rw [forward_executeSite.replaceSites_nil]
        | cons ch t =>
          rw [forward_executeSite.replaceSites_plain _ hcall, forward_closureSite.located_plain hclosure,
            forward_closureSite.located_plain (closureSite_cons_replaceSites forward_executeSite
              (fun _ _ _ _ => .inr fun _ _ _ _ => unlike_executed hd) hclosure),
            ih t.length (by rw [← hlen]; exact Nat.lt_succ_self _) t rfl]

end Executing

end CountDecoding

/-! ## Applying a replacer again -/

namespace JsonAggregate

theorem isTerm_function (d : Dialect) : IsTerm (function d) := by
  have hword : startsWord (function d) = true ∧ (function d).dropLast.all isWordChar = true ∧
      '<' ∉ function d ∧ '\n' ∉ function d := by cases d <;> decide
  exact ⟨hword.1, List.all_eq_true.1 hword.2.1, hword.2.2.1, hword.2.2.2⟩

theorem unlike_function {d : Dialect} (hd : d ≠ .pg) : Unlike (function d) call := by
  cases d with
  | pg => exact absurd rfl hd
  | mysql => exact ⟨by decide, by decide⟩
  | sqlite => exact ⟨by decide, by decide⟩

/-- No call is left. -/
theorem lacks_replace {d : Dialect} (hd : d ≠ .pg) {t u : Text} (h : replace d t = .ok u) :
    Lacks call [] u := by
  unfold replace at h
  split at h
  · cases h
  · rw [← Except.ok.inj h]
    exact lacks_replaceFrom (isTerm_function .pg) (isTerm_function d) (isTerm_function .pg)
      (unlike_function hd) (by cases d <;> decide) rfl (.inl rfl)

theorem replace_of_lacks (d : Dialect) {t : Text} (h : Lacks call [] t) :
    replace d t = .error "expected a `json_agg(` call to rewrite" := by
  have hnone : sites (wordSite call) t = [] := (isTerm_function .pg).sites_wordSite_eq_nil h
  unfold replace
  rw [hnone]
  rfl

end JsonAggregate

namespace CountDecoding

/-- The closures that do not decode are left, and no others. -/
theorem located_replace {d : Dialect} (hd : d ≠ .pg) {t u : Text} (h : replace d t = .ok u) :
    located closureSite u = (located closureSite t).filter fun found => !found.1.isDecoding := by
  unfold replace at h
  split at h
  · rw [← Except.ok.inj h, located_replaceSites_executed hd, located_decoded hd]
  · cases h

theorem replace_of_located (d : Dialect) {t : Text}
    (h : ∀ found ∈ located closureSite t, found.1.isDecoding = false) :
    replace d t = .error "no `results => Number(results[0].<field>)` decoding site found" := by
  have hnone : (sites closureSite t).any Closure.isDecoding = false := by
    rw [← map_fst_located, List.any_map, List.any_eq_false]
    exact fun found hm => by simp [h found hm]
  unfold replace
  rw [hnone]
  rfl

end CountDecoding

namespace Replacer

open CountDecoding in
/-- **A built-in replacer is not applied twice.** For a variant, where calls of the aggregate function
have been replaced none is left where a word starts or ends. Where the decoding of counts has been
replaced the closures are those that do not decode, each with the text that it had, and there is no
other one anywhere, but in the middle of a word. So the replacer fails on the result. -/
theorem apply_once {d : Dialect} (hd : d ≠ .pg) (t u : Text) :
    (apply d t .jsonAggregate = .ok u →
      Lacks JsonAggregate.call [] u ∧
      apply d u .jsonAggregate = .error "expected a `json_agg(` call to rewrite") ∧
    (apply d t .countDecoding = .ok u →
      located closureSite u = (located closureSite t).filter (fun found => !found.1.isDecoding) ∧
      (∀ x covered y c, u = x ++ (covered ++ y) → Written c covered →
        ¬ (startsWord x.reverse = true ∧ startsWord covered = true) → c.parameter ≠ c.indexed) ∧
      apply d u .countDecoding =
        .error "no `results => Number(results[0].<field>)` decoding site found") := by
  constructor
  · intro h
    have hlacks := JsonAggregate.lacks_replace hd h
    exact ⟨hlacks, JsonAggregate.replace_of_lacks d hlacks⟩
  · intro h
    have hlocated := located_replace hd h
    have hnone : ∀ found ∈ located closureSite u, found.1.isDecoding = false := fun found hm => by
      rw [hlocated] at hm
      simpa using (List.mem_filter.1 hm).2
    refine ⟨hlocated, fun x covered y c hu hwritten hstart heq => ?_, replace_of_located d hnone⟩
    have hdecoding := hnone _ (mem_located_of_written hwritten hu hstart)
    rw [Closure.isDecoding, heq, beq_self_eq_true] at hdecoding
    cases hdecoding

/-- The end of a name is no call, and in the middle of a parameter no closure starts. -/
theorem apply_once_mysql :
    let t := "json_agg(a), my_json_agg(b)".toList
    let t' := "json_arrayagg(a), my_json_agg(b)".toList
    let u := "(rows) => Number(rows[0].n), xrow => Number(row[0].n)".toList
    let u' := "([rows]) => Number(rows[0].n), xrow => Number(row[0].n)".toList
    Dialect.mysql ≠ .pg ∧
      apply .mysql t .jsonAggregate = .ok t' ∧ Lacks JsonAggregate.call [] t' ∧
      apply .mysql t' .jsonAggregate = .error "expected a `json_agg(` call to rewrite" ∧
      apply .mysql u .countDecoding = .ok u' ∧
      (located CountDecoding.closureSite u').map Prod.snd =
        ["xrow => Number(row[0].n)".toList] ∧
      apply .mysql u' .countDecoding =
        .error "no `results => Number(results[0].<field>)` decoding site found" := by
  intro t t' u u'
  have hne : Dialect.mysql ≠ .pg := by decide
  have hcalls : apply .mysql t .jsonAggregate = .ok t' := ok_of_toOption (by decide +kernel)
  have hclosures : apply .mysql u .countDecoding = .ok u' := ok_of_toOption (by decide +kernel)
  obtain ⟨hlacks, hcallsAgain⟩ := (apply_once hne t t').1 hcalls
  obtain ⟨hlocated, -, hclosuresAgain⟩ := (apply_once hne u u').2 hclosures
  exact ⟨hne, hcalls, hlacks, hcallsAgain, hclosures, by rw [hlocated]; decide +kernel, hclosuresAgain⟩

end Replacer

end Multidialect
