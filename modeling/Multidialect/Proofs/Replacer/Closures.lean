import Mathlib.Data.List.Basic
import Multidialect.Proofs.Text.Words
import Multidialect.Replacer.Builtin

/-! # What closures look like

A closure is found wherever one is written (`CountDecoding.closureSite_eq_some_iff`). It starts with a
bracket or with a whole word, it has one dot, in front of the field that it reads, and no braces
(`CountDecoding.Reads`). So does what takes its place. So no call of a query starts
in any of them (`CountDecoding.Reads.executeSite_eq_none`), and none of them starts in the middle of a
call.
-/

namespace Multidialect.CountDecoding

open Text

/-! ## Calls -/

/-- What a call starts with. -/
def callFront : Text := ".execute<\x7b".toList

/-- What follows the type of the rows in a call, up to the bracket. -/
def callBack : Text := "\x7d[]>".toList

theorem callBack_eq : callBack = '\x7d' :: "[]>".toList := rfl

/-- The fields end at the first brace. -/
theorem cut_fields {fields : Text} (h : '\x7d' ∉ fields) (rest : Text) :
    (fields ++ (callBack ++ rest)).takeWhile (· != '\x7d') = fields ∧
      (fields ++ (callBack ++ rest)).dropWhile (· != '\x7d') = callBack ++ rest :=
  takeWhile_of_run (fun c hc => by simpa using ne_of_mem_of_not_mem hc h) (by rw [callBack_eq]; rfl)

theorem fields_unique {fields fields' rest rest' : Text} (h : '\x7d' ∉ fields) (h' : '\x7d' ∉ fields')
    (hsame : fields ++ (callBack ++ rest) = fields' ++ (callBack ++ rest')) :
    fields = fields' ∧ rest = rest' := by
  obtain ⟨htake, hdrop⟩ := cut_fields h rest
  obtain ⟨htake', hdrop'⟩ := cut_fields h' rest'
  rw [hsame] at htake hdrop
  exact ⟨htake.symm.trans htake', List.append_cancel_left (hdrop.symm.trans hdrop')⟩

/-- A text without a brace that starts before the end of some fields ends there at the latest. -/
theorem exists_of_noBrace {u rest fields more : Text} (h : '\x7d' ∉ u)
    (hsame : u ++ rest = fields ++ (callBack ++ more)) :
    ∃ fields', fields = u ++ fields' ∧ rest = fields' ++ (callBack ++ more) := by
  rcases List.append_eq_append_iff.1 hsame with ⟨fields', rfl, hrest⟩ | ⟨past, rfl, hback⟩
  · exact ⟨fields', rfl, hrest⟩
  · cases past with
    | nil => exact ⟨[], by simp, by simpa using hback.symm⟩
    | cons x past =>
      rw [callBack_eq] at hback
      obtain ⟨rfl, -⟩ := List.cons.inj hback
      exact absurd (by simp) h

theorem notMem_takeWhile_bne (c : Char) (t : Text) : c ∉ t.takeWhile (· != c) := fun hm => by
  simpa using all_takeWhile _ hm

/-- What follows the type of the rows of a call. -/
def typed? (after : Text) : Option Text := do
  let rest ← stripStart? callFront after
  stripStart? callBack (rest.dropWhile (· != '\x7d'))

theorem typed?_eq_some {after rest : Text} : typed? after = some rest ↔
    ∃ fields, '\x7d' ∉ fields ∧ after = callFront ++ (fields ++ (callBack ++ rest)) := by
  simp only [typed?, Option.bind_eq_bind, Option.bind_eq_some_iff, stripStart?_eq_some]
  constructor
  · rintro ⟨more, rfl, hmore⟩
    refine ⟨more.takeWhile (· != '\x7d'), notMem_takeWhile_bne _ more, ?_⟩
    rw [← hmore, List.takeWhile_append_dropWhile]
  · rintro ⟨fields, hfields, rfl⟩
    exact ⟨_, rfl, (cut_fields hfields rest).2⟩

/-- A call for rows with some fields. -/
def callText (fields : Text) : Text := callFront ++ (fields ++ (callBack ++ ['(']))

theorem callText_append (fields rest : Text) :
    callText fields ++ rest = callFront ++ (fields ++ (callBack ++ '(' :: rest)) := by
  simp [callText]

theorem callFront_eq : callFront = '.' :: "execute<\x7b".toList := rfl

theorem drop_takeWhile {p : Char → Bool} (t : Text) :
    t.drop (t.takeWhile p).length = t.dropWhile p := by
  have hdrop : (t.takeWhile p ++ t.dropWhile p).drop (t.takeWhile p).length = t.dropWhile p :=
    List.drop_left
  rwa [List.takeWhile_append_dropWhile] at hdrop

/-- A call is the type of its rows and a bracket. -/
theorem executeSite_eq_some {before after row : Text} {n : Nat} :
    executeSite before after = some (row, n) ↔ ∃ fields rest, '\x7d' ∉ fields ∧
      row = '\x7b' :: fields ++ ['\x7d'] ∧ after = callText fields ++ rest ∧
      n = (callText fields).length := by
  simp only [executeSite, Option.bind_eq_bind, Option.bind_eq_some_iff, stripStart?_eq_some,
    Option.some.injEq, Prod.mk.injEq, drop_takeWhile]
  constructor
  · rintro ⟨more, rfl, rest, hrest, rfl, rfl⟩
    have hmore : more = more.takeWhile (· != '\x7d') ++ (callBack ++ '(' :: rest) := by
      have hback : more.dropWhile (· != '\x7d') = callBack ++ '(' :: rest := hrest
      rw [← hback, List.takeWhile_append_dropWhile]
    have hfields := notMem_takeWhile_bne '\x7d' more
    generalize more.takeWhile (· != '\x7d') = fields at hmore hfields
    subst hmore
    refine ⟨fields, rest, hfields, rfl, (callText_append fields rest).symm, ?_⟩
    have hlength : (".execute<\x7b".toList).length = callFront.length := rfl
    simp only [callText, List.length_append, List.length_cons, List.length_nil, hlength]
    omega
  · rintro ⟨fields, rest, hfields, rfl, rfl, rfl⟩
    obtain ⟨htake, hdrop⟩ := cut_fields hfields ('(' :: rest)
    refine ⟨fields ++ (callBack ++ '(' :: rest), callText_append fields rest, rest, ?_, ?_, ?_⟩
    · rw [hdrop]
      rfl
    · rw [htake]
    · rw [List.length_append]
      exact Nat.add_sub_cancel _ _

/-! ## The parts of a closure -/

/-- A word: some characters, all of them parts of words. -/
def IsName (w : Text) : Prop := w ≠ [] ∧ ∀ c ∈ w, isWordChar c = true

theorem word?_eq_some {t w rest : Text} (h : word? t = some (w, rest)) : t = w ++ rest ∧ IsName w := by
  unfold word? at h
  split at h
  · cases h
  · rename_i hne
    obtain ⟨rfl, rfl⟩ := Prod.mk.inj (Option.some.inj h)
    exact ⟨List.takeWhile_append_dropWhile.symm, hne, all_takeWhile⟩

theorem word?_append {w rest : Text} (h : IsName w) (hrest : startsWord rest = false) :
    word? (w ++ rest) = some (w, rest) := by
  obtain ⟨htake, hdrop⟩ := takeWhile_of_run h.2 hrest
  unfold word?
  rw [htake, hdrop]
  split
  · exact absurd rfl h.1
  · rfl

/-- White space does not go on with a name. -/
theorem IsName.head?_append {w : Text} (h : IsName w) (t : Text) :
    (w ++ t).head?.any isBlank = false := by
  obtain ⟨c, w, rfl⟩ := List.exists_cons_of_ne_nil h.1
  rw [← Bool.not_eq_true]
  intro hc
  have hword := h.2 c (.head _)
  rw [Unicode.not_isWordChar_of_isBlank hc] at hword
  cases hword

/-- A word does not go on with white space. -/
theorem startsWord_blanks {ws t : Text} (hws : ∀ c ∈ ws, isBlank c = true) (ht : startsWord t = false) :
    startsWord (ws ++ t) = false := by
  cases ws with
  | nil => exact ht
  | cons c ws => exact Unicode.not_isWordChar_of_isBlank (hws c (.head _))

theorem bracketed?_eq_some {t w rest : Text} (h : bracketed? t = some (w, rest)) :
    ∃ ws₁ ws₂, t = '(' :: (ws₁ ++ (w ++ (ws₂ ++ ')' :: rest))) ∧ IsName w ∧
      ∀ c ∈ ws₁ ++ ws₂, isBlank c = true := by
  simp only [bracketed?, Option.bind_eq_bind, Option.bind_eq_some_iff, stripStart?_eq_some,
    Option.some.injEq, Prod.mk.injEq] at h
  obtain ⟨u, rfl, ⟨w, v⟩, hword, v', hv, rfl, rfl⟩ := h
  obtain ⟨ws₁, hu, hws₁⟩ := exists_blanks u
  obtain ⟨ws₂, hv', hws₂⟩ := exists_blanks v
  obtain ⟨hu', hw⟩ := word?_eq_some hword
  refine ⟨ws₁, ws₂, ?_, hw, List.forall_mem_append.2 ⟨hws₁, hws₂⟩⟩
  rw [hu, hu', hv', hv]
  simp

theorem bracketed?_append {ws₁ ws₂ w : Text} (hws₁ : ∀ c ∈ ws₁, isBlank c = true) (hw : IsName w)
    (hws₂ : ∀ c ∈ ws₂, isBlank c = true) (rest : Text) :
    bracketed? ('(' :: (ws₁ ++ (w ++ (ws₂ ++ ')' :: rest)))) = some (w, rest) := by
  have hopen : ∀ t, stripStart? ['('] ('(' :: t) = some t := fun t => stripStart?_eq_some.2 rfl
  have hclose : ∀ t, stripStart? [')'] (')' :: t) = some t := fun t => stripStart?_eq_some.2 rfl
  have hname := word?_append hw
    (startsWord_blanks hws₂ (t := ')' :: rest) (by decide : isWordChar ')' = false))
  simp only [bracketed?, hopen, trimStart_of_run hws₁ (hw.head?_append _), hname,
    trimStart_of_run hws₂ (t := ')' :: rest) (by decide : isBlank ')' = false), hclose,
    Option.bind_eq_bind, Option.bind_some]

/-- What follows the parameter of a closure, up to the dot. -/
inductive Arrow (indexed : Text) : Text → Prop
  | mk {ws₁ ws₂ ws₃ : Text} (blank₁ : ∀ c ∈ ws₁, isBlank c = true) (blank₂ : ∀ c ∈ ws₂, isBlank c = true)
      (blank₃ : ∀ c ∈ ws₃, isBlank c = true) : Arrow indexed
        (ws₁ ++ ("=>".toList ++ (ws₂ ++ ("Number(".toList ++ (ws₃ ++ (indexed ++ "[0]".toList))))))

/-- What follows the parameter of a closure. -/
theorem reading?_eq_some {t indexed field rest : Text} (h : reading? t = some (indexed, field, rest)) :
    ∃ arrow blanks, t = arrow ++ '.' :: (field ++ (blanks ++ ')' :: rest)) ∧ Arrow indexed arrow ∧
      (∀ c ∈ blanks, isBlank c = true) ∧ IsName indexed ∧ IsName field := by
  simp only [reading?, Option.bind_eq_bind, Option.bind_eq_some_iff, stripStart?_eq_some,
    Option.some.injEq, Prod.mk.injEq] at h
  obtain ⟨u, hu, v, hv, ⟨indexed, w⟩, hindexed, y, hy, ⟨field, x⟩, hfield, z, hz, rfl, rfl, rfl⟩ := h
  obtain ⟨ws₁, ht, hws₁⟩ := exists_blanks t
  obtain ⟨ws₂, hu', hws₂⟩ := exists_blanks u
  obtain ⟨ws₃, hv', hws₃⟩ := exists_blanks v
  obtain ⟨ws₄, hx, hws₄⟩ := exists_blanks x
  obtain ⟨hindexed', hindexed⟩ := word?_eq_some hindexed
  obtain ⟨hfield', hfield⟩ := word?_eq_some hfield
  refine ⟨_, ws₄, ?_, .mk hws₁ hws₂ hws₃, hws₄, hindexed, hfield⟩
  have hdot : "[0].".toList = "[0]".toList ++ ['.'] := rfl
  dsimp only at hy hx
  rw [ht, hu, hu', hv, hv', hindexed', hy, hfield', hx, hz, hdot]
  simp

theorem reading?_append {arrow blanks indexed field : Text} (h : Arrow indexed arrow)
    (hblanks : ∀ c ∈ blanks, isBlank c = true) (hindexed : IsName indexed) (hfield : IsName field)
    (rest : Text) :
    reading? (arrow ++ '.' :: (field ++ (blanks ++ ')' :: rest))) = some (indexed, field, rest) := by
  cases h with
  | @mk ws₁ ws₂ ws₃ hws₁ hws₂ hws₃ =>
    have hstrip : ∀ start t, stripStart? start (start ++ t) = some t :=
      fun _ _ => stripStart?_eq_some.2 rfl
    have harrow : ∀ t, stripStart? ['=', '>'] ("=>".toList ++ t) = some t := hstrip "=>".toList
    have hrow : ∀ t, stripStart? "[0].".toList ("[0]".toList ++ '.' :: t) = some t := hstrip "[0].".toList
    have hclose : ∀ t, stripStart? [')'] (')' :: t) = some t := hstrip [')']
    have hvariable : ∀ t, word? (indexed ++ ("[0]".toList ++ t)) = some (indexed, "[0]".toList ++ t) :=
      fun t => word?_append hindexed (by decide : isWordChar '[' = false)
    have hname := word?_append hfield
      (startsWord_blanks hblanks (t := ')' :: rest) (by decide : isWordChar ')' = false))
    simp only [List.append_assoc, reading?,
      trimStart_of_run hws₁ (t := "=>".toList ++ _) (by decide : isBlank '=' = false), harrow,
      trimStart_of_run hws₂ (t := "Number(".toList ++ _) (by decide : isBlank 'N' = false), hstrip,
      trimStart_of_run hws₃ (hindexed.head?_append _), hvariable, hrow, hname,
      trimStart_of_run hblanks (t := ')' :: rest) (by decide : isBlank ')' = false), hclose,
      Option.bind_eq_bind, Option.bind_some]

theorem Arrow.startsWord_append {indexed arrow : Text} (h : Arrow indexed arrow) (t : Text) :
    startsWord (arrow ++ t) = false := by
  cases h with
  | mk hws₁ =>
    rw [List.append_assoc]
    exact startsWord_blanks hws₁ (by decide : isWordChar '=' = false)

/-- A parameter, which may stand in brackets. -/
inductive Opening (parameter : Text) : Text → Prop
  | word : Opening parameter parameter
  | bracket {ws₁ ws₂ : Text} (blank₁ : ∀ c ∈ ws₁, isBlank c = true)
      (blank₂ : ∀ c ∈ ws₂, isBlank c = true) :
      Opening parameter ('(' :: (ws₁ ++ (parameter ++ (ws₂ ++ [')']))))

theorem closureWith?_eq_some {after : Text} {found : Option (Text × Text)} {c : Closure} {n : Nat} :
    closureWith? after found = some (c, n) ↔ ∃ t rest, found = some (c.parameter, t) ∧
      reading? t = some (c.indexed, c.field, rest) ∧ n = after.length - rest.length := by
  simp only [closureWith?, Option.bind_eq_bind, Option.bind_eq_some_iff, Option.some.injEq,
    Prod.mk.injEq, Prod.exists]
  constructor
  · rintro ⟨parameter, t, rfl, indexed, field, rest, hreading, rfl, rfl⟩
    exact ⟨t, rest, rfl, hreading, rfl⟩
  · rintro ⟨t, rest, rfl, hreading, rfl⟩
    exact ⟨c.parameter, t, rfl, c.indexed, c.field, rest, hreading, rfl, rfl⟩

/-- A parameter with the rest of a closure behind it. -/
theorem closureSite_eq_some_iff_opening {before after : Text} {c : Closure} {n : Nat} :
    closureSite before after = some (c, n) ↔ ∃ opening t rest, after = opening ++ t ∧
      Opening c.parameter opening ∧ IsName c.parameter ∧ startsWord t = false ∧
      reading? t = some (c.indexed, c.field, rest) ∧ n = after.length - rest.length := by
  have hends : ∀ {t rest}, reading? t = some (c.indexed, c.field, rest) → startsWord t = false := by
    intro t rest hreading
    obtain ⟨arrow, blanks, rfl, harrow, -⟩ := reading?_eq_some hreading
    exact harrow.startsWord_append _
  constructor
  · intro h
    rcases Option.or_eq_some_iff.1 h with h | ⟨-, h⟩
    · obtain ⟨t, rest, hfound, hreading, hn⟩ := closureWith?_eq_some.1 h
      obtain ⟨ws₁, ws₂, hafter, hparameter, hws⟩ := bracketed?_eq_some hfound
      obtain ⟨hws₁, hws₂⟩ := List.forall_mem_append.1 hws
      exact ⟨_, t, rest, by simp [hafter], .bracket hws₁ hws₂, hparameter, hends hreading, hreading, hn⟩
    · obtain ⟨t, rest, hfound, hreading, hn⟩ := closureWith?_eq_some.1 h
      obtain ⟨hafter, hparameter⟩ := word?_eq_some hfound
      exact ⟨_, t, rest, hafter, .word, hparameter, hends hreading, hreading, hn⟩
  · rintro ⟨opening, t, rest, rfl, hopens, hparameter, hstart, hreading, rfl⟩
    refine Option.or_eq_some_iff.2 ?_
    cases hopens with
    | bracket hws₁ hws₂ =>
      have hfound := bracketed?_append hws₁ hparameter hws₂ t
      exact .inl (closureWith?_eq_some.2 ⟨t, rest, by simpa using hfound, hreading, rfl⟩)
    | word =>
      have hfound := word?_append hparameter hstart
      refine .inr ⟨?_, closureWith?_eq_some.2 ⟨t, rest, hfound, hreading, rfl⟩⟩
      have hbracket : bracketed? (c.parameter ++ t) = none := by
        refine Option.eq_none_iff_forall_ne_some.2 fun found hbracketed => ?_
        obtain ⟨ch, name, hname⟩ := List.exists_cons_of_ne_nil hparameter.1
        obtain ⟨ws₁, ws₂, hopen, -⟩ := bracketed?_eq_some hbracketed
        have hword := hparameter.2 ch (by simp [hname])
        rw [hname] at hopen
        rw [(List.cons.inj hopen).1] at hword
        exact absurd hword (by decide)
      rw [hbracket]
      rfl

/-! ## Closures as they are written -/

/-- A closure as it is written, with white space between its parts. -/
inductive Written (c : Closure) : Text → Prop
  | mk {opening arrow blanks : Text} (opens : Opening c.parameter opening) (reads : Arrow c.indexed arrow)
      (blank : ∀ ch ∈ blanks, isBlank ch = true) (parameter : IsName c.parameter)
      (indexed : IsName c.indexed) (field : IsName c.field) :
      Written c ((opening ++ arrow) ++ '.' :: (c.field ++ (blanks ++ [')'])))

/-- **A closure is found wherever one is written.** -/
theorem closureSite_eq_some_iff {before after : Text} {c : Closure} {n : Nat} :
    closureSite before after = some (c, n) ↔
      ∃ covered rest, after = covered ++ rest ∧ n = covered.length ∧ Written c covered := by
  rw [closureSite_eq_some_iff_opening]
  constructor
  · rintro ⟨opening, t, rest, rfl, hopens, hparameter, -, hreading, rfl⟩
    obtain ⟨arrow, blanks, rfl, harrow, hblanks, hindexed, hfield⟩ := reading?_eq_some hreading
    refine ⟨_, rest, by simp, ?_, .mk hopens harrow hblanks hparameter hindexed hfield⟩
    simp only [List.length_append, List.length_cons, List.length_nil]
    omega
  · rintro ⟨covered, rest, rfl, rfl, hwritten⟩
    cases hwritten with
    | @mk opening arrow blanks hopens harrow hblanks hparameter hindexed hfield =>
      refine ⟨opening, arrow ++ '.' :: (c.field ++ (blanks ++ ')' :: rest)), rest, by simp, hopens,
        hparameter, harrow.startsWord_append _, reading?_append harrow hblanks hindexed hfield rest, ?_⟩
      simp only [List.length_append, Nat.add_sub_cancel]

/-! ## Texts that read a field -/

/-- A text that starts with a bracket or with a whole word that is not in front of the type of rows. -/
inductive Opens : Text → Prop
  | bracket (more : Text) : Opens ('(' :: more)
  | word {w more : Text} {c : Char} (name : IsName w) (ends : isWordChar c = false) (other : c ≠ '<') :
      Opens (w ++ c :: more)

/-- A text that starts like a closure and has one dot, in front of a field at its end. -/
inductive Reads : Text → Prop
  | mk {front field blanks : Text} (opens : Opens front) (noDot : '.' ∉ front) (noBrace : '\x7d' ∉ front)
      (name : IsName field) (blank : ∀ c ∈ blanks, isBlank c = true) :
      Reads (front ++ '.' :: (field ++ (blanks ++ [')'])))

theorem IsName.notMem {w : Text} (h : IsName w) {c : Char} (hc : isWordChar c = false) : c ∉ w :=
  fun hm => by
    rw [h.2 c hm] at hc
    cases hc

theorem notMem_blanks {ws : Text} (h : ∀ c ∈ ws, isBlank c = true) {c : Char} (hc : isBlank c = false) :
    c ∉ ws := fun hm => by
  rw [h c hm] at hc
  cases hc

/-- A character that is neither white space nor a part of a word. -/
theorem Opening.notMem {parameter opening : Text} (h : Opening parameter opening)
    (hname : IsName parameter) {c : Char} (hc : isWordChar c = false) (hblank : isBlank c = false)
    (hbracket : c ∉ ['(', ')']) : c ∉ opening := by
  cases h with
  | word => exact hname.notMem hc
  | bracket hws₁ hws₂ =>
    simp only [List.mem_cons, List.not_mem_nil, or_false, not_or] at hbracket
    simp [hname.notMem hc, notMem_blanks hws₁ hblank, notMem_blanks hws₂ hblank, hbracket]

theorem Arrow.notMem {indexed arrow : Text} (h : Arrow indexed arrow) (hname : IsName indexed) {c : Char}
    (hc : isWordChar c = false) (hblank : isBlank c = false)
    (hother : c ∉ "=>Number([0]".toList) : c ∉ arrow := by
  cases h with
  | mk hws₁ hws₂ hws₃ =>
    have hsplit : "=>Number([0]".toList = "=>".toList ++ ("Number(".toList ++ "[0]".toList) := by decide
    rw [hsplit, List.mem_append, List.mem_append, not_or, not_or] at hother
    simp only [List.mem_append, not_or]
    exact ⟨notMem_blanks hws₁ hblank, hother.1, notMem_blanks hws₂ hblank, hother.2.1,
      notMem_blanks hws₃ hblank, hname.notMem hc, hother.2.2⟩

/-- A closure reads a field. -/
theorem Written.reads {c : Closure} {covered : Text} (h : Written c covered) : Reads covered := by
  cases h with
  | @mk opening arrow blanks hopens hreads hblank hparameter hindexed hfield =>
    refine .mk ?_ (List.not_mem_append (hopens.notMem hparameter (by decide) (by decide) (by decide))
      (hreads.notMem hindexed (by decide) (by decide) (by decide)))
      (List.not_mem_append (hopens.notMem hparameter (by decide) (by decide) (by decide))
        (hreads.notMem hindexed (by decide) (by decide) (by decide))) hfield hblank
    cases hopens with
    | bracket => exact .bracket _
    | word =>
      cases hreads with
      | @mk ws₁ _ _ hws₁ =>
        cases ws₁ with
        | nil => exact .word hparameter (c := '=') (by decide) (by decide)
        | cons ch ws₁ =>
          have hch := hws₁ ch (.head _)
          exact .word hparameter (Unicode.not_isWordChar_of_isBlank hch) (ne_of_isBlank hch (by decide))

/-- A closure covers a text that reads a field. -/
theorem closureSite_eq_some {before after : Text} {c : Closure} {n : Nat}
    (h : closureSite before after = some (c, n)) :
    ∃ covered rest, after = covered ++ rest ∧ n = covered.length ∧ Reads covered ∧ IsName c.field := by
  obtain ⟨covered, rest, hafter, hn, hwritten⟩ := closureSite_eq_some_iff.1 h
  refine ⟨covered, rest, hafter, hn, hwritten.reads, ?_⟩
  cases hwritten
  assumption

/-- What takes the place of a closure reads a field, too. -/
theorem Reads.decoded {covered : Text} {c : Closure} (h : Reads covered) (hfield : IsName c.field)
    (d : Dialect) : Reads (decoded d c covered) := by
  unfold CountDecoding.decoded
  split
  · cases d with
    | pg => exact h
    | mysql =>
      have hopens : Opens "([rows]) => Number(rows[0]".toList := .bracket _
      have hreads : Reads ("([rows]) => Number(rows[0]".toList ++ '.' :: (c.field ++ ([] ++ [')']))) :=
        .mk hopens (by decide) (by decide) hfield (by simp)
      simpa using hreads
    | sqlite =>
      have hrow : IsName "row".toList := ⟨by decide, List.all_eq_true.1 (by decide)⟩
      have hopens : Opens ("row".toList ++ ' ' :: "=> Number(row".toList) :=
        .word hrow (by decide) (by decide)
      have hreads : Reads ("row => Number(row".toList ++ '.' :: (c.field ++ ([] ++ [')']))) :=
        .mk hopens (by decide) (by decide) hfield (by simp)
      simpa using hreads
  · exact h

namespace Reads

variable {u : Text} (h : Reads u)
include h

theorem ne_nil : u ≠ [] := by
  cases h
  simp

theorem noBrace : '\x7d' ∉ u := by
  cases h with
  | mk _ _ hbrace hname hblank =>
    simp [hbrace, hname.notMem (c := '\x7d') (by decide), notMem_blanks hblank (c := '\x7d') (by decide)]

theorem opens : Opens u := by
  cases h with
  | mk hopens =>
    cases hopens with
    | bracket more => exact .bracket _
    | word name ends other => rw [List.append_assoc, List.cons_append]; exact .word name ends other

/-- Where a field is read, no dot stands in front of a name with the type of rows behind it. -/
theorem ne_call {x y name : Text} (hu : u = x ++ y) (hy : y ≠ []) (hcall : IsName name)
    (rest more : Text) : y ++ rest ≠ '.' :: (name ++ '<' :: more) := by
  intro hsplit
  cases h with
  | @mk front field blanks _ hdot _ hname hblank =>
    obtain ⟨c, y, rfl⟩ := List.exists_cons_of_ne_nil hy
    obtain ⟨rfl, hfield⟩ : c = '.' ∧ y ++ rest = name ++ '<' :: more := List.cons.inj hsplit
    -- There is one dot only, so the field must be what follows it in a call.
    have hdot' : '.' ∉ field ++ (blanks ++ [')']) := by
      simp [hname.notMem (c := '.') (by decide), notMem_blanks hblank (c := '.') (by decide)]
    obtain ⟨-, -, rfl⟩ := (List.append_cons_inj_of_notMem hdot hdot').1 hu
    rw [List.append_assoc, List.append_assoc] at hfield
    have hends : startsWord (blanks ++ ([')'] ++ rest)) = false :=
      startsWord_blanks hblank (by decide : isWordChar ')' = false)
    obtain ⟨-, hlt⟩ := run_unique hfield hname.2 hends hcall.2 (by decide : isWordChar '<' = false)
    cases blanks with
    | nil => simp at hlt
    | cons d blanks =>
      have hd := hblank d (.head _)
      rw [(List.cons.inj hlt).1] at hd
      exact absurd hd (by decide)

/-- No call starts where a field is read. -/
theorem executeSite_eq_none {x y : Text} (hu : u = x ++ y) (hy : y ≠ []) (before rest : Text) :
    executeSite before (y ++ rest) = none := by
  refine Option.eq_none_iff_forall_ne_some.2 fun ⟨row, n⟩ hcall => ?_
  obtain ⟨fields, more, -, -, hsplit, -⟩ := executeSite_eq_some.1 hcall
  have hexecute : IsName "execute".toList := ⟨by decide, List.all_eq_true.1 (by decide)⟩
  exact h.ne_call hu hy hexecute rest ('\x7b' :: (fields ++ (callBack ++ '(' :: more)))
    (by rw [hsplit, callText_append]; rfl)

end Reads

/-- Whether no closure can start at the front of a text, nor a call. -/
def blocks (s : Text) : Bool :=
  match s.takeWhile isWordChar, s.dropWhile isWordChar with
  | [], c :: _ => c != '(' && c != '.'
  | _ :: _, c :: _ => c == '<'
  | _, [] => false

theorem Opens.ne_append {u s : Text} (h : Opens u) (hs : blocks s = true) (z w : Text) :
    u ++ z ≠ s ++ w := by
  intro hsame
  have hsplit := List.takeWhile_append_dropWhile (p := isWordChar) (l := s)
  have hrun := all_takeWhile (p := isWordChar) (t := s)
  have hends := head?_dropWhile (p := isWordChar) (t := s)
  unfold blocks at hs
  generalize s.takeWhile isWordChar = word at hs hsplit hrun
  generalize s.dropWhile isWordChar = tail at hs hsplit hends
  subst hsplit
  cases tail with
  | nil => cases word <;> cases hs
  | cons c tail =>
    cases h with
    | bracket more =>
      cases word with
      | nil =>
        obtain ⟨rfl, -⟩ := List.cons.inj hsame
        cases hs
      | cons d word =>
        obtain ⟨rfl, -⟩ := List.cons.inj hsame
        exact absurd (hrun _ (.head _)) (by decide)
    | @word name more e hname hnonword hother =>
      rw [List.append_assoc, List.append_assoc] at hsame
      obtain ⟨rfl, htail⟩ := run_unique hsame hname.2 (by simpa using hnonword) hrun (by simpa using hends)
      cases name with
      | nil => exact hname.1 rfl
      | cons d name =>
        obtain ⟨rfl, -⟩ := List.cons.inj htail
        exact hother (by simpa using hs)

end Multidialect.CountDecoding
