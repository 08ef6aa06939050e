import Mathlib.Data.List.Infix
import Multidialect.Proofs.Replacer.Closures

/-! # Where closures start

A closure starts with a bracket or with a name in front of an arrow, so a text tells by its front
whether one can start there (`CountDecoding.bars`). What takes the place of a closure is so unlike one
that no closure starts in it (`CountDecoding.closureSite_decoded`) and that it is no part of the end of
one (`CountDecoding.unlike_decoded`). Within a closure another one starts only in the middle of the
parameter (`CountDecoding.Written.within`).
-/

namespace Multidialect.CountDecoding

open Text

/-! ## Where a closure can start -/

/-- A text that starts as a closure does: with a bracket, or with a name in front of an arrow. -/
inductive Begins : Text → Prop
  | bracket (more : Text) : Begins ('(' :: more)
  | word {w blanks more : Text} (name : IsName w) (blank : ∀ c ∈ blanks, isBlank c = true) :
      Begins (w ++ (blanks ++ '=' :: more))

/-- Whether no closure can start at the front of a text, whatever follows it. -/
def bars (s : Text) : Bool :=
  match s.takeWhile isWordChar, s.dropWhile isWordChar with
  | [], c :: _ => c != '('
  | _ :: _, rest => (rest.dropWhile isBlank).head?.any (· != '=')
  | [], [] => false

theorem Begins.append {u : Text} (h : Begins u) (v : Text) : Begins (u ++ v) := by
  cases h with
  | bracket more => exact .bracket _
  | word name blank =>
    rw [List.append_assoc, List.append_assoc]
    exact .word name blank

theorem Begins.ne_append {u s : Text} (h : Begins u) (hs : bars s = true) (w : Text) : u ≠ s ++ w := by
  intro hsame
  have hsplit := List.takeWhile_append_dropWhile (p := isWordChar) (l := s)
  have hrun := all_takeWhile (p := isWordChar) (t := s)
  have hends := head?_dropWhile (p := isWordChar) (t := s)
  unfold bars at hs
  generalize s.takeWhile isWordChar = word at hs hsplit hrun
  generalize s.dropWhile isWordChar = tail at hs hsplit hends
  subst hsplit
  cases h with
  | bracket more =>
    cases word with
    | cons d word =>
      obtain ⟨rfl, -⟩ := List.cons.inj hsame
      exact absurd (hrun _ (.head _)) (by decide)
    | nil =>
      cases tail with
      | nil => cases hs
      | cons c tail =>
        obtain ⟨rfl, -⟩ := List.cons.inj hsame
        cases hs
  | @word name blanks more hname hblank =>
    cases word with
    | nil =>
      cases tail with
      | nil => cases hs
      | cons c tail =>
        obtain ⟨d, name, rfl⟩ := List.exists_cons_of_ne_nil hname.1
        obtain ⟨rfl, -⟩ := List.cons.inj hsame
        simp [hname.2 _ (.head _)] at hends
    | cons d word =>
      have hcut := List.takeWhile_append_dropWhile (p := isBlank) (l := tail)
      have hblanks := all_takeWhile (p := isBlank) (t := tail)
      have hstop := head?_dropWhile (p := isBlank) (t := tail)
      generalize tail.takeWhile isBlank = ws at hcut hblanks
      dsimp only at hs
      generalize tail.dropWhile isBlank = rest at hs hcut hstop
      subst hcut
      cases rest with
      | nil => cases hs
      | cons c rest =>
        rw [List.append_assoc] at hsame
        have htail : startsWord ((ws ++ c :: rest) ++ w) = false := by
          cases ws <;> simpa [startsWord] using hends
        obtain ⟨-, htail⟩ := run_unique hsame hname.2
          (startsWord_blanks hblank (by decide : isWordChar '=' = false)) hrun htail
        rw [List.append_assoc] at htail
        obtain ⟨-, heq⟩ := run_unique htail hblank (by decide : isBlank '=' = false) hblanks hstop
        rw [← (List.cons.inj heq).1] at hs
        cases hs

theorem Written.begins {c : Closure} {covered : Text} (h : Written c covered) : Begins covered := by
  cases h with
  | mk hopens hreads hblank hparameter =>
    refine .append ?_ _
    cases hopens with
    | bracket => exact .bracket _
    | word =>
      cases hreads with
      | mk hws₁ => exact .word hparameter hws₁

variable {before t : Text}

/-- Where a closure stands, whatever follows it. -/
theorem Written.closureSite_eq_some {c : Closure} {covered : Text} (h : Written c covered) (rest : Text) :
    closureSite before (covered ++ rest) = some (c, covered.length) :=
  closureSite_eq_some_iff.2 ⟨covered, rest, rfl, rfl, h⟩

theorem written_of_closureSite {c : Closure} {covered rest : Text}
    (h : closureSite before (covered ++ rest) = some (c, covered.length)) : Written c covered := by
  obtain ⟨covered', rest', hsame, hlength, hwritten⟩ := closureSite_eq_some_iff.1 h
  rwa [List.append_inj_left hsame hlength]

theorem closureSite_eq_none_iff :
    closureSite before t = none ↔ ∀ c covered, Written c covered → ¬ covered <+: t := by
  constructor
  · rintro hnone c covered hwritten ⟨rest, rfl⟩
    rw [hwritten.closureSite_eq_some] at hnone
    cases hnone
  · intro h
    refine Option.eq_none_iff_forall_ne_some.2 fun ⟨c, n⟩ hsome => ?_
    obtain ⟨covered, rest, rfl, -, hwritten⟩ := closureSite_eq_some_iff.1 hsome
    exact h c covered hwritten (List.prefix_append covered rest)

theorem closureSite_of_bars {s : Text} (hs : bars s = true) (w : Text) :
    closureSite before (s ++ w) = none := by
  refine closureSite_eq_none_iff.2 fun c covered hwritten ⟨rest, hsame⟩ => ?_
  exact (hwritten.begins.append rest).ne_append hs w hsame

/-! ## What takes the place of a closure -/

/-- A text with a dot is cut in front of the dot or behind it. -/
theorem cut_at_dot {front tail x y : Text} (h : front ++ '.' :: tail = x ++ y) (hy : y ≠ []) :
    (∃ k, front = x ++ k ∧ y = k ++ '.' :: tail) ∨ ∃ k, tail = k ++ y := by
  rcases List.append_eq_append_iff.1 h with ⟨k, rfl, hk⟩ | ⟨k, hfront, rfl⟩
  · cases k with
    | nil => exact .inl ⟨[], by simp, hk.symm⟩
    | cons c k => exact .inr ⟨k, (List.cons.inj hk).2⟩
  · exact .inl ⟨k, hfront, rfl⟩

theorem front_unique {front front' tail tail' : Text} (hdot : '.' ∉ front) (hdot' : '.' ∉ front')
    (h : front ++ '.' :: tail = front' ++ '.' :: tail') : front = front' := by
  have hrun : ∀ {u : Text}, '.' ∉ u → ∀ c ∈ u, (c != '.') = true := fun hu c hc => by
    simpa using ne_of_mem_of_not_mem hc hu
  exact (run_unique h (hrun hdot) rfl (hrun hdot') rfl).1

/-- No closure starts in a field or behind it. -/
theorem bars_field {field blanks k y : Text} (hfield : ∀ c ∈ field, isWordChar c = true)
    (hblanks : ∀ c ∈ blanks, isBlank c = true) (h : field ++ (blanks ++ [')']) = k ++ y) (hy : y ≠ []) :
    bars y = true := by
  obtain ⟨w, ws, rfl, hw, hws⟩ : ∃ w ws, y = w ++ (ws ++ [')']) ∧ (∀ c ∈ w, isWordChar c = true) ∧
      ∀ c ∈ ws, isBlank c = true := by
    rcases List.append_eq_append_iff.1 h with ⟨k, rfl, hk⟩ | ⟨w, rfl, rfl⟩
    · rcases List.append_eq_append_iff.1 hk with ⟨as, rfl, has⟩ | ⟨ws, rfl, rfl⟩
      · obtain ⟨-, rfl⟩ | ⟨-, rfl⟩ := List.append_eq_singleton_iff.1 has.symm
        · exact ⟨[], [], rfl, by simp, by simp⟩
        · exact absurd rfl hy
      · exact ⟨[], ws, rfl, by simp, (List.forall_mem_append.1 hblanks).2⟩
    · exact ⟨w, blanks, rfl, (List.forall_mem_append.1 hfield).2, hblanks⟩
  have hends : startsWord (ws ++ [')']) = false :=
    startsWord_blanks hws (by decide : isWordChar ')' = false)
  obtain ⟨htake, hdrop⟩ := takeWhile_of_run hw hends
  unfold bars
  rw [htake, hdrop]
  cases w with
  | cons c w =>
    have hclose : (ws ++ [')']).dropWhile isBlank = [')'] :=
      (takeWhile_of_run hws (v := [')']) (by decide : isBlank ')' = false)).2
    dsimp only
    rw [hclose]
    decide
  | nil =>
    cases ws with
    | nil => decide
    | cons c ws => simpa using ne_of_isBlank (hws c (.head _)) (d := '(') (by decide)

theorem Written.notMem_front {parameter indexed opening arrow : Text} (hopens : Opening parameter opening)
    (harrow : Arrow indexed arrow) (hparameter : IsName parameter) (hindexed : IsName indexed) :
    '.' ∉ opening ++ arrow :=
  List.not_mem_append (hopens.notMem hparameter (by decide) (by decide) (by decide))
    (harrow.notMem hindexed (by decide) (by decide) (by decide))

theorem Written.field {c : Closure} {covered : Text} (h : Written c covered) : IsName c.field := by
  cases h
  assumption

/-- Whether a text looks like what stands in front of the dot of a closure. -/
def isFront (t : Text) : Bool :=
  t.head?.any (fun c => c == '(' || isWordChar c) && t.count '[' == 1 && t.count ']' == 1 &&
    t.any (· == '>') && t.getLast? == some ']'

theorem isFront_append {parameter indexed opening arrow : Text} (hopens : Opening parameter opening)
    (harrow : Arrow indexed arrow) (hparameter : IsName parameter) (hindexed : IsName indexed) :
    isFront (opening ++ arrow) = true := by
  have hopening : ∀ {c}, isWordChar c = false → isBlank c = false → c ∉ ['(', ')'] →
      opening.count c = 0 :=
    fun hc hblank hbracket => List.count_eq_zero.2 (hopens.notMem hparameter hc hblank hbracket)
  have hhead : (opening ++ arrow).head?.any (fun c => c == '(' || isWordChar c) = true := by
    cases hopens with
    | bracket => rfl
    | word =>
      obtain ⟨c, parameter, rfl⟩ := List.exists_cons_of_ne_nil hparameter.1
      simp [hparameter.2 c (.head _)]
  cases harrow with
  | @mk ws₁ ws₂ ws₃ hws₁ hws₂ hws₃ =>
    have hws : ∀ {c}, isBlank c = false → ws₁.count c = 0 ∧ ws₂.count c = 0 ∧ ws₃.count c = 0 := fun hc =>
      ⟨List.count_eq_zero.2 (notMem_blanks hws₁ hc), List.count_eq_zero.2 (notMem_blanks hws₂ hc),
        List.count_eq_zero.2 (notMem_blanks hws₃ hc)⟩
    have hvariable : ∀ {c}, isWordChar c = false → indexed.count c = 0 :=
      fun hc => List.count_eq_zero.2 (hindexed.notMem hc)
    have hlast : ∀ u : Text, (u ++ "[0]".toList).getLast? = some ']' := fun u => by
      have hsplit : "[0]".toList = "[0".toList ++ [']'] := by decide
      rw [hsplit, ← List.append_assoc, List.getLast?_concat]
    have hends : (opening ++ (ws₁ ++ ("=>".toList ++ (ws₂ ++ ("Number(".toList ++ (ws₃ ++ (indexed ++
        "[0]".toList))))))).getLast? = some ']' := by
      simpa only [List.append_assoc] using hlast (opening ++ (ws₁ ++ ("=>".toList ++ (ws₂ ++
        ("Number(".toList ++ (ws₃ ++ indexed))))))
    simp only [isFront, hhead, hends, List.count_append, List.any_append,
      hopening (c := '[') (by decide) (by decide) (by decide),
      hopening (c := ']') (by decide) (by decide) (by decide), hws (c := '[') (by decide),
      hws (c := ']') (by decide), hvariable (c := '[') (by decide), hvariable (c := ']') (by decide)]
    simp

/-- What stands in front of the dot of a closure that a variant decodes. -/
def decodedFront : Dialect → Text
  | .pg => []
  | .mysql => "([rows]) => Number(rows[0]".toList
  | .sqlite => "row => Number(row".toList

theorem notMem_decodedFront (d : Dialect) : '.' ∉ decodedFront d := by
  cases d <;> decide

section Decoding

variable {d : Dialect} (hd : d ≠ .pg) {c : Closure} (hc : c.isDecoding = true)
include hd

omit c in
/-- It is not what stands in front of the dot of a closure, nor the end of it, nor does one end it. -/
theorem isFront_decodedFront (x : Text) :
    isFront (x ++ decodedFront d) = false ∧ ∀ k ∈ (decodedFront d).tails, isFront k = false := by
  cases d with
  | pg => exact absurd rfl hd
  | mysql =>
    have hcount : (decodedFront .mysql).count '[' = 2 := by decide
    have htwo : (List.count '[' (x ++ decodedFront .mysql) == 1) = false := by
      rw [List.count_append, hcount]
      exact beq_false_of_ne (by omega)
    exact ⟨by rw [isFront, htwo]; simp only [Bool.and_false, Bool.false_and], by decide⟩
  | sqlite =>
    have hlast : (x ++ decodedFront .sqlite).getLast? = some 'w' := by
      have hsplit : decodedFront .sqlite = "row => Number(ro".toList ++ ['w'] := by decide
      rw [hsplit, ← List.append_assoc, List.getLast?_concat]
    have hother : (some 'w' == some ']') = false := by decide
    exact ⟨by rw [isFront, hlast, hother, Bool.and_false], by decide⟩

include hc

theorem decoded_eq (covered : Text) :
    decoded d c covered = decodedFront d ++ '.' :: (c.field ++ [')']) := by
  unfold decoded
  rw [if_pos hc]
  cases d with
  | pg => exact absurd rfl hd
  | mysql =>
    have hsplit : "([rows]) => Number(rows[0].".toList = decodedFront .mysql ++ ['.'] := by decide
    dsimp only
    rw [hsplit, List.append_assoc, List.append_assoc, List.singleton_append]
  | sqlite =>
    have hsplit : "row => Number(row.".toList = decodedFront .sqlite ++ ['.'] := by decide
    dsimp only
    rw [hsplit, List.append_assoc, List.append_assoc, List.singleton_append]

theorem begins_decoded (covered : Text) : Begins (decoded d c covered) := by
  rw [decoded_eq hd hc]
  cases d with
  | pg => exact absurd rfl hd
  | mysql => exact .bracket _
  | sqlite =>
    have hrow : IsName "row".toList := ⟨by decide, List.all_eq_true.1 (by decide)⟩
    have hblank : ∀ c ∈ [' '], isBlank c = true := List.forall_mem_singleton.2 (by decide)
    have hbegins : Begins ("row".toList ++ ([' '] ++ '=' :: "> Number(row".toList)) := .word hrow hblank
    exact hbegins.append _

/-- What takes the place of a closure is unlike each end of a closure. -/
theorem unlike_decoded (covered : Text) {c' : Closure} {u x y : Text} (hu : Written c' u)
    (hsplit : u = x ++ y) (hy : y ≠ []) : Unlike (decoded d c covered) y := by
  refine unlike_of_append_ne fun r r' hsame => ?_
  cases hu with
  | @mk opening arrow blanks hopens harrow hblanks hparameter hindexed hfield' =>
    have hdot : '.' ∉ opening ++ arrow := Written.notMem_front hopens harrow hparameter hindexed
    rcases cut_at_dot hsplit hy with ⟨k, hfront, rfl⟩ | ⟨k, htail⟩
    · rw [decoded_eq hd hc, List.append_assoc, List.append_assoc] at hsame
      have hk : decodedFront d = k := front_unique (notMem_decodedFront d)
        (fun hm => hdot (hfront ▸ List.mem_append_right x hm)) hsame
      have hthere := isFront_append hopens harrow hparameter hindexed
      rw [hfront, ← hk, (isFront_decodedFront hd x).1] at hthere
      cases hthere
    · have hbars := bars_field hfield'.2 hblanks htail hy
      exact ((begins_decoded hd hc covered).append r).ne_append hbars r' hsame

/-- No closure starts in what takes the place of one. -/
theorem closureSite_decoded (hfield : IsName c.field) (covered : Text) {x y : Text}
    (hsplit : decoded d c covered = x ++ y) (hy : y ≠ []) (rest : Text) :
    closureSite [] (y ++ rest) = none := by
  rw [decoded_eq hd hc] at hsplit
  rcases cut_at_dot hsplit hy with ⟨k, hfront, rfl⟩ | ⟨k, htail⟩
  · refine closureSite_eq_none_iff.2 fun c' u hu ⟨r, hsame⟩ => ?_
    cases hu with
    | @mk opening arrow blanks hopens harrow hblanks hparameter hindexed hfield' =>
      have hdot : '.' ∉ opening ++ arrow := Written.notMem_front hopens harrow hparameter hindexed
      rw [List.append_assoc (opening ++ arrow), List.append_assoc k] at hsame
      have hk : opening ++ arrow = k := front_unique hdot
        (fun hm => notMem_decodedFront d (hfront ▸ List.mem_append_right x hm)) hsame
      have hthere := isFront_append hopens harrow hparameter hindexed
      rw [hk, (isFront_decodedFront hd []).2 k ((List.mem_tails _ _).2 ⟨x, hfront.symm⟩)] at hthere
      cases hthere
  · have hblanks : ∀ c ∈ ([] : Text), isBlank c = true := by simp
    exact closureSite_of_bars (bars_field hfield.2 hblanks htail hy) rest

end Decoding

/-! ## Closures within closures -/

theorem Opening.head?_reverse {parameter opening : Text} (h : Opening parameter opening)
    (hname : IsName parameter) (t : Text) : (opening.reverse ++ t).head?.any isBlank = false := by
  cases h with
  | word =>
    have hreverse : IsName parameter.reverse :=
      ⟨mt List.reverse_eq_nil_iff.1 hname.1, fun c hc => hname.2 c (List.mem_reverse.1 hc)⟩
    exact hreverse.head?_append t
  | bracket =>
    have hclose : isBlank ')' = false := by decide
    simp [hclose]

/-- What stands in front of an arrow is told by where the arrow starts. -/
theorem Arrow.unique {indexed indexed' arrow arrow' u u' : Text} (h : Arrow indexed arrow)
    (h' : Arrow indexed' arrow') (hname : IsName indexed) (hname' : IsName indexed')
    (hu : u.reverse.head?.any isBlank = false) (hu' : u'.reverse.head?.any isBlank = false)
    (hsame : u ++ arrow = u' ++ arrow') : u = u' := by
  -- Seen from the end, the arrow ends at the first `=`, and white space follows.
  have hcut : ∀ {indexed arrow u : Text}, Arrow indexed arrow → IsName indexed → ∃ more ws,
      (u ++ arrow).reverse = more ++ '=' :: (ws ++ u.reverse) ∧ (∀ c ∈ more, (c != '=') = true) ∧
      ∀ c ∈ ws, isBlank c = true := by
    intro indexed arrow u h hname
    cases h with
    | @mk ws₁ ws₂ ws₃ hws₁ hws₂ hws₃ =>
      have hsplit : "=>".toList = ['=', '>'] := rfl
      refine ⟨(ws₂ ++ ("Number(".toList ++ (ws₃ ++ (indexed ++ "[0]".toList)))).reverse ++ ['>'],
        ws₁.reverse, by simp [hsplit], fun c hc => ?_, fun c hc => hws₁ c (List.mem_reverse.1 hc)⟩
      have hmore : '=' ∉ ws₂ ++ ("Number(".toList ++ (ws₃ ++ (indexed ++ "[0]".toList))) := by
        have hnumber : '=' ∉ "Number(".toList := by decide
        have hrow : '=' ∉ "[0]".toList := by decide
        simp only [List.mem_append, not_or]
        exact ⟨notMem_blanks hws₂ (by decide), hnumber, notMem_blanks hws₃ (by decide),
          hname.notMem (by decide), hrow⟩
      rcases List.mem_append.1 hc with hc | hc
      · simpa using ne_of_mem_of_not_mem (List.mem_reverse.1 hc) hmore
      · rw [List.mem_singleton.1 hc]
        decide
  obtain ⟨more, ws, hreverse, hmore, hws⟩ := hcut (u := u) h hname
  obtain ⟨more', ws', hreverse', hmore', hws'⟩ := hcut (u := u') h' hname'
  rw [← hsame, hreverse] at hreverse'
  obtain ⟨-, hback⟩ := run_unique hreverse' hmore rfl hmore' rfl
  obtain ⟨-, hfront⟩ := run_unique (List.cons.inj hback).2 hws hu hws' hu'
  exact List.reverse_inj.1 hfront

theorem Opening.ne_nil {parameter opening : Text} (h : Opening parameter opening)
    (hname : IsName parameter) : opening ≠ [] := by
  cases h with
  | word => exact hname.1
  | bracket => exact List.cons_ne_nil _ _

theorem startsWord_of_forall {u : Text} (h : ∀ c ∈ u, isWordChar c = true) (hu : u ≠ []) :
    startsWord u = true := by
  obtain ⟨c, u, rfl⟩ := List.exists_cons_of_ne_nil hu
  exact h c (.head _)

/-- A parameter at the end of a parameter is the end of a name. -/
theorem Opening.within {parameter parameter' opening opening' x : Text} (h : Opening parameter opening)
    (h' : Opening parameter' opening') (hname : IsName parameter) (hname' : IsName parameter')
    (hsplit : opening = x ++ opening') (hx : x ≠ []) :
    startsWord x.reverse = true ∧ startsWord opening' = true := by
  cases h with
  | word =>
    obtain ⟨hfront, hback⟩ := List.forall_mem_append.1 (hsplit ▸ hname.2)
    exact ⟨startsWord_of_forall (fun c hc => hfront c (List.mem_reverse.1 hc))
      (mt List.reverse_eq_nil_iff.1 hx), startsWord_of_forall hback (h'.ne_nil hname')⟩
  | @bracket ws₁ ws₂ hws₁ hws₂ =>
    exfalso
    cases h' with
    | word =>
      obtain ⟨front, c, rfl⟩ := (List.eq_nil_or_concat parameter').resolve_left hname'.1
      have hlast : ('(' :: (ws₁ ++ (parameter ++ ws₂))) ++ [')'] = (x ++ front) ++ [c] := by
        simpa using hsplit
      obtain ⟨-, hc⟩ := List.append_inj' hlast rfl
      have hword := hname'.2 c (by simp)
      rw [← (List.cons.inj hc).1] at hword
      exact absurd hword (by decide)
    | bracket =>
      obtain ⟨c, x, rfl⟩ := List.exists_cons_of_ne_nil hx
      have hopen : '(' ∈ ws₁ ++ (parameter ++ (ws₂ ++ [')'])) := by
        rw [(List.cons.inj hsplit).2]
        simp
      simp [notMem_blanks hws₁ (c := '(') (by decide), hname.notMem (c := '(') (by decide),
        notMem_blanks hws₂ (c := '(') (by decide)] at hopen

/-- Within a closure another one starts only in the middle of the parameter. -/
theorem Written.within {c c' : Closure} {covered covered' x z y rest : Text} (h : Written c covered)
    (h' : Written c' covered') (hsplit : covered = x ++ z) (hx : x ≠ []) (hz : z ≠ [])
    (hsame : covered' ++ y = z ++ rest) : startsWord x.reverse = true ∧ startsWord covered' = true := by
  have hbegins := h'.begins.append y
  cases h with
  | @mk opening arrow blanks hopens harrow hblanks hparameter hindexed hfield =>
    rcases cut_at_dot hsplit hz with ⟨k, hfront, rfl⟩ | ⟨k, htail⟩
    · cases h' with
      | @mk opening' arrow' blanks' hopens' harrow' hblanks' hparameter' hindexed' hfield' =>
        have hdot := Written.notMem_front hopens harrow hparameter hindexed
        have hdot' := Written.notMem_front hopens' harrow' hparameter' hindexed'
        rw [List.append_assoc (opening' ++ arrow'), List.append_assoc k] at hsame
        have hk : opening' ++ arrow' = k :=
          front_unique hdot' (fun hm => hdot (hfront ▸ List.mem_append_right x hm)) hsame
        have hopening : opening = x ++ opening' := by
          refine harrow.unique harrow' hindexed hindexed' ?_ ?_ (by rw [hfront, ← hk, List.append_assoc])
          · simpa using hopens.head?_reverse hparameter []
          · rw [List.reverse_append]
            exact hopens'.head?_reverse hparameter' _
        obtain ⟨hbehind, hword⟩ := hopens.within hopens' hparameter hparameter' hopening hx
        refine ⟨hbehind, ?_⟩
        rwa [List.append_assoc, startsWord_append (hopens'.ne_nil hparameter')]
    · exact absurd hsame (hbegins.ne_append (bars_field hfield.2 hblanks htail hz) rest)

end Multidialect.CountDecoding
