import Multidialect.Proofs.Text.Characters
import Mathlib.Data.List.Basic

/-! # Counting arguments

The arguments of a list reach from behind its `<` to the `>` that closes it (`arguments?`), where
brackets, strings and arrows are read as they are where a parameter list is cut. A text that closes
what it opens (`closesItself`) may be put in front of the arguments, with a comma behind it, and adds
its entries to them (`countFrom_append_comma`); inside an argument it adds nothing
(`countFrom_nested`).
-/

namespace Multidialect.Text

namespace Nesting

variable {s : Nesting} {c : Char}

/-- Whether `c` closes a bracket that has been opened before the text started. -/
def closesAt (s : Nesting) (c : Char) : Bool :=
  s.quote.isNone && s.depth == 0 && isClosing c && !(c == '>' && s.prev == '=')

/-- The nesting after a text. -/
def run (s : Nesting) (t : Text) : Nesting := t.foldl next s

/-- A text closes all brackets and strings that it opens, and no others. -/
def closesItself (s : Nesting) : Text → Bool
  | [] => s.quote.isNone && s.depth == 0
  | c :: cs => !s.closesAt c && closesItself (s.next c) cs

/-- Behind a comma, with some brackets open. -/
def level (depth : Nat) : Nesting := ⟨depth, none, ','⟩

/-- Outside of strings, and not behind the `=` of an arrow. -/
structure Plain (s : Nesting) : Prop where
  quote : s.quote = none
  prev : s.prev ≠ '='

theorem plain_start : start.Plain := ⟨rfl, by decide⟩

theorem plain_level (d : Nat) : (level d).Plain := ⟨rfl, by simp [level]⟩

namespace Plain

theorem next_eq (h : s.Plain) (c : Char) : s.next c = (level s.depth).next c := by
  have hprev : (s.prev == '=') = false := by simpa using h.prev
  simp [next, level, h.quote, hprev]

theorem closesAt_eq (h : s.Plain) (c : Char) : s.closesAt c = (level s.depth).closesAt c := by
  have hprev : (s.prev == '=') = false := by simpa using h.prev
  simp [closesAt, level, h.quote, hprev]

theorem cutsAt_eq (h : s.Plain) (sep c : Char) : s.cutsAt sep c = (level s.depth).cutsAt sep c := by
  simp [cutsAt, level, h.quote]

theorem splitTopLevelFrom_eq (h : s.Plain) (sep : Char) (t : Text) :
    splitTopLevelFrom sep s t = splitTopLevelFrom sep (level s.depth) t := by
  cases t with
  | nil => rfl
  | cons c cs => rw [splitTopLevelFrom, splitTopLevelFrom, h.cutsAt_eq, h.next_eq]

theorem closesItself_eq (h : s.Plain) (t : Text) :
    s.closesItself t = (level s.depth).closesItself t := by
  cases t with
  | nil => simp [closesItself, level, h.quote]
  | cons c cs => rw [closesItself, closesItself, h.closesAt_eq, h.next_eq]

end Plain

theorem next_comma (h : s.quote = none) : s.next ',' = level s.depth := by
  simp [next, level, h, isQuote, isOpening, isClosing]

theorem next_open (h : s.quote = none) : s.next '<' = ⟨s.depth + 1, none, '<'⟩ := by
  simp [next, h, isQuote, isOpening]

theorem next_of_isOrdinary (h : s.quote = none) (hc : IsOrdinary c) :
    s.next c = ⟨s.depth, none, c⟩ := by
  have harrow : (c == '>') = false := by
    cases hgt : c == '>' with
    | false => rfl
    | true =>
      have hclosing := hc.closing
      simp [isClosing, hgt] at hclosing
  simp [next, h, hc.quote, hc.opening, hc.closing, harrow]

/-- Where strings are does not depend on the number of open brackets. -/
theorem quote_next {s' : Nesting} (hquote : s'.quote = s.quote) (hprev : s'.prev = s.prev) (c : Char) :
    (s'.next c).quote = (s.next c).quote ∧ (s'.next c).prev = (s.next c).prev := by
  simp only [next, hquote, hprev]
  cases s.quote with
  | some q => exact ⟨rfl, rfl⟩
  | none =>
    simp only
    split
    · exact ⟨rfl, rfl⟩
    · split
      · exact ⟨rfl, rfl⟩
      · split
        · exact ⟨rfl, rfl⟩
        · split <;> exact ⟨rfl, rfl⟩

theorem quote_run {s' : Nesting} (hquote : s'.quote = s.quote) (hprev : s'.prev = s.prev) (t : Text) :
    (s'.run t).quote = (s.run t).quote := by
  induction t generalizing s s' with
  | nil => exact hquote
  | cons c cs ih =>
    obtain ⟨hquote', hprev'⟩ := quote_next hquote hprev c
    exact ih hquote' hprev'

/-- The strings of a text are the same wherever it is plain. -/
theorem Plain.quote_run_eq {s' : Nesting} (h : s.Plain) (h' : s'.Plain) (t : Text) :
    (s.run t).quote = (s'.run t).quote := by
  cases t with
  | nil => exact h.quote.trans h'.quote.symm
  | cons c cs =>
    obtain ⟨hquote, hprev⟩ :=
      @quote_next (level s'.depth) (level s.depth) rfl rfl c
    rw [run, List.foldl_cons, run, List.foldl_cons, h.next_eq, h'.next_eq]
    exact quote_run hquote hprev cs

theorem Plain.next_blank (h : s.Plain) (hc : isBlank c = true) :
    (s.next c).Plain ∧ (s.next c).depth = s.depth := by
  rw [next_of_isOrdinary h.quote (isOrdinary_of_isBlank hc)]
  exact ⟨⟨rfl, (isOrdinary_of_isBlank hc).equals⟩, rfl⟩

theorem Plain.run_blanks (h : s.Plain) {ws : Text} (hws : ∀ c ∈ ws, isBlank c = true) :
    (s.run ws).Plain := by
  induction ws generalizing s with
  | nil => exact h
  | cons c ws ih => exact ih (h.next_blank (hws c (.head _))).1 fun d hd => hws d (.tail _ hd)

theorem closesAt_of_isOrdinary (hc : IsOrdinary c) : s.closesAt c = false := by
  simp [closesAt, hc.closing]

theorem cutsAt_of_isOrdinary (hc : IsOrdinary c) : s.cutsAt ',' c = false := by
  simp [cutsAt, hc.comma]

/-- The same nesting below `k` more brackets. -/
def below (k : Nat) (s : Nesting) : Nesting := { s with depth := s.depth + k }

theorem next_below (k : Nat) (h : s.closesAt c = false) :
    (below k s).next c = below k (s.next c) := by
  cases hquote : s.quote with
  | some q => simp [next, below, hquote]
  | none =>
    simp only [closesAt, hquote, Option.isNone_none, Bool.true_and] at h
    simp only [next, below, hquote]
    split
    · rfl
    · split
      · simp only [Nesting.mk.injEq, and_self, and_true]
        omega
      · split
        · rfl
        · rename_i harrow
          split
          · rename_i hclosing
            have hdepth : s.depth ≠ 0 := by
              intro hzero
              rw [hzero, hclosing] at h
              simp only [beq_self_eq_true, Bool.true_and, Bool.not_eq_false'] at h
              exact harrow h
            simp only [Nesting.mk.injEq, and_self, and_true]
            omega
          · rfl

theorem closesAt_below (k : Nat) : (below (k + 1) s).closesAt c = false := by
  simp [closesAt, below]

theorem cutsAt_below (k : Nat) (sep : Char) : (below (k + 1) s).cutsAt sep c = false := by
  simp [cutsAt, below]

end Nesting

open Nesting

/-! ## Entries -/

/-- The number of entries that are not blank in a text that goes on with an entry; `filled` tells
that this entry is not blank. -/
def entriesFrom (s : Nesting) (filled : Bool) (t : Text) : Nat :=
  match splitTopLevelFrom ',' s t with
  | [] => 0
  | entry :: rest => (filled || !isBlankText entry).toNat + (rest.filter (!isBlankText ·)).length

variable {s : Nesting} {filled : Bool} {c : Char}

theorem splitTopLevelFrom_ne_nil (sep : Char) (s : Nesting) (t : Text) :
    splitTopLevelFrom sep s t ≠ [] := by
  induction t generalizing s with
  | nil => simp [splitTopLevelFrom]
  | cons c cs ih =>
    rw [splitTopLevelFrom]
    split
    · simp
    · simpa [List.modifyHead_eq_nil_iff] using ih _

theorem entriesFrom_start (t : Text) : entriesFrom .start false t = parameterCount t := by
  rw [entriesFrom, parameterCount, splitTopLevel]
  cases h : splitTopLevelFrom ',' .start t with
  | nil => exact absurd h (splitTopLevelFrom_ne_nil _ _ _)
  | cons entry rest =>
    cases hblank : isBlankText entry <;> simp [hblank, Nat.add_comm]

theorem entriesFrom_nil : entriesFrom s filled [] = filled.toNat := by
  simp [entriesFrom, splitTopLevelFrom, isBlankText]

theorem entriesFrom_cons (cs : Text) :
    entriesFrom s filled (c :: cs) =
      if s.cutsAt ',' c then filled.toNat + entriesFrom (s.next c) false cs
      else entriesFrom (s.next c) (filled || !isBlank c) cs := by
  simp only [entriesFrom, splitTopLevelFrom]
  cases h : splitTopLevelFrom ',' (s.next c) cs with
  | nil => exact absurd h (splitTopLevelFrom_ne_nil _ _ _)
  | cons entry rest =>
    by_cases hcut : s.cutsAt ',' c = true
    · have hempty : isBlankText [] = true := rfl
      simp only [if_pos hcut, hempty, List.filter_cons]
      cases isBlankText entry <;> simp [Nat.add_comm]
    · have hall : isBlankText (c :: entry) = (isBlank c && isBlankText entry) := rfl
      simp only [if_neg hcut, List.modifyHead_cons]
      rw [hall, Bool.not_and, Bool.or_assoc]

theorem Nesting.Plain.entriesFrom_eq (h : s.Plain) (filled : Bool) (t : Text) :
    entriesFrom s filled t = entriesFrom (level s.depth) filled t := by
  rw [entriesFrom, entriesFrom, h.splitTopLevelFrom_eq]

/-! ## The arguments of a list -/

/-- The text up to the `>` that closes a bracket from before. -/
def argumentsFrom? (s : Nesting) : Text → Option Text
  | [] => none
  | c :: cs =>
    if s.closesAt c then (if c = '>' then some [] else none)
    else (argumentsFrom? (s.next c) cs).map (c :: ·)

/-- The arguments of a list, for the text behind its `<`; none if no `>` closes it. -/
def arguments? (t : Text) : Option Text := argumentsFrom? .start t

theorem argumentsFrom?_eq_some {t args : Text} (h : argumentsFrom? s t = some args) :
    ∃ rest, t = args ++ '>' :: rest := by
  induction t generalizing s args with
  | nil => cases h
  | cons c cs ih =>
    rw [argumentsFrom?] at h
    split at h
    · split at h
      · rename_i hc
        obtain rfl := Option.some.inj h
        exact ⟨cs, by rw [hc]; rfl⟩
      · cases h
    · obtain ⟨args', hargs', rfl⟩ := Option.map_eq_some_iff.1 h
      obtain ⟨rest, rfl⟩ := ih hargs'
      exact ⟨rest, rfl⟩

/-- The number of arguments up to the `>`. -/
def countFrom (s : Nesting) (filled : Bool) (t : Text) : Option Nat :=
  (argumentsFrom? s t).map (entriesFrom s filled)

theorem countFrom_start (t : Text) :
    countFrom .start false t = (arguments? t).map parameterCount := by
  rw [countFrom, arguments?]
  congr 1
  funext args
  exact entriesFrom_start args

theorem countFrom_cons (s : Nesting) (filled : Bool) (c : Char) (cs : Text) :
    countFrom s filled (c :: cs) =
      if s.closesAt c then (if c = '>' then some filled.toNat else none)
      else if s.cutsAt ',' c then (countFrom (s.next c) false cs).map (filled.toNat + ·)
      else countFrom (s.next c) (filled || !isBlank c) cs := by
  rw [countFrom, argumentsFrom?]
  split
  · split
    · rw [Option.map_some, entriesFrom_nil]
    · rfl
  · rw [countFrom, countFrom, Option.map_map]
    split
    · rename_i hcut
      rw [Option.map_map]
      congr 1
      funext args
      rw [Function.comp, entriesFrom_cons, if_pos hcut, Function.comp]
    · rename_i hcut
      congr 1
      funext args
      rw [Function.comp, entriesFrom_cons, if_neg hcut]

theorem Nesting.Plain.argumentsFrom?_eq (h : s.Plain) (t : Text) :
    argumentsFrom? s t = argumentsFrom? (level s.depth) t := by
  cases t with
  | nil => rfl
  | cons c cs => rw [argumentsFrom?, argumentsFrom?, h.closesAt_eq, h.next_eq]

theorem Nesting.Plain.countFrom_eq (h : s.Plain) (filled : Bool) (t : Text) :
    countFrom s filled t = countFrom (level s.depth) filled t := by
  rw [countFrom, countFrom, h.argumentsFrom?_eq, funext (h.entriesFrom_eq filled)]

/-- White space is no part of the arguments' structure. -/
theorem argumentsFrom?_blanks {ws : Text} (hs : s.Plain) (hws : ∀ c ∈ ws, isBlank c = true)
    (t : Text) :
    argumentsFrom? s (ws ++ t) = (argumentsFrom? (level s.depth) t).map (ws ++ ·) := by
  induction ws generalizing s with
  | nil =>
    have hid : (([] : Text) ++ ·) = (id : Text → Text) := rfl
    rw [hid, Option.map_id]
    exact hs.argumentsFrom?_eq t
  | cons c ws ih =>
    have hc := hws c (.head _)
    obtain ⟨hnext, hdepth⟩ := hs.next_blank hc
    rw [List.cons_append, argumentsFrom?, closesAt_of_isOrdinary (isOrdinary_of_isBlank hc),
      ih hnext fun d hd => hws d (.tail _ hd), hdepth]
    cases argumentsFrom? (level s.depth) t <;> rfl

theorem entriesFrom_blanks {ws : Text} (hs : s.Plain) (hws : ∀ c ∈ ws, isBlank c = true)
    (filled : Bool) (t : Text) :
    entriesFrom s filled (ws ++ t) = entriesFrom (level s.depth) filled t := by
  induction ws generalizing s with
  | nil => exact hs.entriesFrom_eq filled t
  | cons c ws ih =>
    have hc := hws c (.head _)
    obtain ⟨hnext, hdepth⟩ := hs.next_blank hc
    rw [List.cons_append, entriesFrom_cons, cutsAt_of_isOrdinary (isOrdinary_of_isBlank hc), hc]
    simp only [Bool.false_eq_true, if_false, Bool.not_true, Bool.or_false]
    rw [ih hnext fun d hd => hws d (.tail _ hd), hdepth]

/-- A text that goes on with white space is read as if it did not. -/
theorem countFrom_blanks {ws : Text} (hs : s.Plain) (hws : ∀ c ∈ ws, isBlank c = true)
    (filled : Bool) (t : Text) :
    countFrom s filled (ws ++ t) = countFrom (level s.depth) filled t := by
  rw [countFrom, countFrom, argumentsFrom?_blanks hs hws, Option.map_map]
  congr 1
  funext args
  exact entriesFrom_blanks hs hws filled args

theorem closesAt_comma : s.closesAt ',' = false := by simp [closesAt, isClosing]

/-- Behind a text that closes itself a comma cuts. -/
theorem cutsAt_comma (hx : s.closesItself [] = true) :
    s.cutsAt ',' ',' = true ∧ s.next ',' = level 0 := by
  simp only [closesItself, Bool.and_eq_true, Option.isNone_iff_eq_none, beq_iff_eq] at hx
  obtain ⟨hquote, hdepth⟩ := hx
  rw [next_comma hquote, hdepth]
  simp [cutsAt, hquote, hdepth, isQuote, isOpening, isClosing]

theorem entriesFrom_append_comma {x : Text} (hx : s.closesItself x = true) (filled : Bool)
    (t : Text) :
    entriesFrom s filled (x ++ ',' :: t) =
      entriesFrom s filled x + entriesFrom (level 0) false t := by
  induction x generalizing s filled with
  | nil =>
    obtain ⟨hcuts, hnext⟩ := cutsAt_comma hx
    rw [List.nil_append, entriesFrom_cons, if_pos hcuts, hnext, entriesFrom_nil]
  | cons c x ih =>
    simp only [closesItself, Bool.and_eq_true] at hx
    rw [List.cons_append, entriesFrom_cons, entriesFrom_cons]
    split
    · rw [ih hx.2, Nat.add_assoc]
    · exact ih hx.2 _

theorem argumentsFrom?_append_comma {x : Text} (hx : s.closesItself x = true) (t : Text) :
    argumentsFrom? s (x ++ ',' :: t) = (argumentsFrom? (level 0) t).map (x ++ ',' :: ·) := by
  induction x generalizing s with
  | nil =>
    rw [List.nil_append, argumentsFrom?, closesAt_comma, (cutsAt_comma hx).2]
    rfl
  | cons c x ih =>
    simp only [closesItself, Bool.and_eq_true, Bool.not_eq_true'] at hx
    rw [List.cons_append, argumentsFrom?, hx.1, ih hx.2]
    cases argumentsFrom? (level 0) t <;> rfl

/-- **Entries in front of the arguments** are added to them. -/
theorem countFrom_append_comma {x : Text} (hx : s.closesItself x = true) (filled : Bool) (t : Text) :
    countFrom s filled (x ++ ',' :: t) =
      (countFrom (level 0) false t).map (entriesFrom s filled x + ·) := by
  rw [countFrom, countFrom, argumentsFrom?_append_comma hx, Option.map_map, Option.map_map]
  congr 1
  funext args
  exact entriesFrom_append_comma hx filled args

/-- **Inside an argument** a text that closes itself is passed over. -/
theorem countFrom_below {x : Text} (hx : s.closesItself x = true) (k : Nat) (t : Text) :
    countFrom (below (k + 1) s) true (x ++ ',' :: t) = countFrom (level (k + 1)) true t := by
  induction x generalizing s with
  | nil =>
    simp only [closesItself, Bool.and_eq_true, Option.isNone_iff_eq_none, beq_iff_eq] at hx
    obtain ⟨hquote, hdepth⟩ := hx
    have hnext : (below (k + 1) s).next ',' = level (k + 1) := by
      rw [next_comma (s := below (k + 1) s) hquote, below, hdepth, Nat.zero_add]
    rw [List.nil_append, countFrom_cons, closesAt_below, cutsAt_below, hnext]
    simp
  | cons c x ih =>
    simp only [closesItself, Bool.and_eq_true, Bool.not_eq_true'] at hx
    obtain ⟨hcloses, hrest⟩ := hx
    rw [List.cons_append, countFrom_cons, closesAt_below, cutsAt_below, next_below _ hcloses]
    simp only [Bool.false_eq_true, if_false, Bool.true_or]
    exact ih hrest

theorem countFrom_nested {x ws : Text} (hs : s.Plain) (hdepth : 0 < s.depth)
    (hx : (level 0).closesItself x = true) (hws : ∀ c ∈ ws, isBlank c = true) (t : Text) :
    countFrom s true (x ++ ',' :: ws ++ t) = countFrom s true t := by
  obtain ⟨k, hk⟩ : ∃ k, s.depth = k + 1 := ⟨s.depth - 1, by omega⟩
  have hlevel : level s.depth = below (k + 1) (level 0) := by simp [level, below, hk]
  have hblanks : countFrom (level (k + 1)) true (ws ++ t) = countFrom (level (k + 1)) true t :=
    countFrom_blanks (plain_level _) hws true t
  rw [hs.countFrom_eq, hs.countFrom_eq, List.append_assoc, List.cons_append, hlevel,
    countFrom_below hx, hblanks, ← hlevel, hk]

/-! ## Lists of names -/

theorem closesItself_of_isOrdinary {t : Text} (hs : s.quote = none) (hdepth : s.depth = 0)
    (h : ∀ c ∈ t, c = ',' ∨ IsOrdinary c) : s.closesItself t = true := by
  induction t generalizing s with
  | nil => simp [closesItself, hs, hdepth]
  | cons c cs ih =>
    have hrest : ∀ d ∈ cs, d = ',' ∨ IsOrdinary d := fun d hd => h d (.tail _ hd)
    rw [closesItself, Bool.and_eq_true, Bool.not_eq_true']
    rcases h c (.head _) with rfl | hc
    · exact ⟨closesAt_comma, ih (by rw [next_comma hs]; rfl) (by rw [next_comma hs]; exact hdepth)
        hrest⟩
    · rw [next_of_isOrdinary hs hc]
      exact ⟨closesAt_of_isOrdinary hc, ih rfl hdepth hrest⟩

/-- A name of parameters. -/
structure IsParameterName (name : Text) : Prop where
  ne_nil : name ≠ []
  name : ∀ c ∈ name, isNameChar c = true

theorem entriesFrom_name {name : Text} (h : ∀ c ∈ name, isNameChar c = true) (filled : Bool) :
    entriesFrom s filled name = (filled || !isBlankText name).toNat := by
  induction name generalizing s filled with
  | nil => simp [entriesFrom_nil, isBlankText]
  | cons c cs ih =>
    have hplain := isOrdinary_of_isNameChar (h c (.head _))
    have hall : isBlankText (c :: cs) = (isBlank c && isBlankText cs) := rfl
    rw [entriesFrom_cons, cutsAt_of_isOrdinary hplain]
    simp only [Bool.false_eq_true, if_false]
    rw [ih fun d hd => h d (.tail _ hd), hall, Bool.not_and, Bool.or_assoc]

theorem IsParameterName.isBlankText_eq {name : Text} (h : IsParameterName name) :
    isBlankText name = false := by
  obtain ⟨c, cs, rfl⟩ := List.exists_cons_of_ne_nil h.ne_nil
  cases hc : isBlank c with
  | false => simp [isBlankText, hc]
  | true =>
    have hname := h.name c (.head _)
    rw [not_isNameChar_of_isBlank hc] at hname
    cases hname

theorem IsParameterName.entriesFrom_eq {name : Text} (h : IsParameterName name) (s : Nesting)
    (filled : Bool) : entriesFrom s filled name = 1 := by
  rw [entriesFrom_name h.name, h.isBlankText_eq]
  simp

theorem isOrdinary_of_mem_join {names : List Text} (h : ∀ name ∈ names, IsParameterName name) :
    ∀ c ∈ join [',', ' '] names, c = ',' ∨ IsOrdinary c := by
  induction names with
  | nil => simp [join]
  | cons name names ih =>
    have hname : ∀ c ∈ name, c = ',' ∨ IsOrdinary c := fun c hc =>
      .inr (isOrdinary_of_isNameChar ((h name (.head _)).name c hc))
    cases names with
    | nil => simpa [join] using hname
    | cons name' names =>
      intro c hc
      rw [join, List.intercalate_cons_cons, List.mem_append, List.mem_append] at hc
      rcases hc with (hc | hc) | hc
      · exact hname c hc
      · rcases List.mem_cons.1 hc with rfl | hc
        · exact .inl rfl
        · rw [List.mem_singleton.1 hc]
          exact .inr (isOrdinary_of_isBlank (by decide))
      · exact ih (fun x hx => h x (.tail _ hx)) c hc

/-- A list of names has as many entries. -/
theorem entriesFrom_join {names : List Text} (hs : s.Plain) (hdepth : s.depth = 0)
    (h : ∀ name ∈ names, IsParameterName name) :
    entriesFrom s false (join [',', ' '] names) = names.length := by
  induction names generalizing s with
  | nil => exact entriesFrom_nil
  | cons name names ih =>
    have hname := h name (.head _)
    cases names with
    | nil => simpa [join] using hname.entriesFrom_eq s false
    | cons name' names =>
      have hspace : IsOrdinary ' ' := isOrdinary_of_isBlank (by decide)
      have hself : s.closesItself name = true := closesItself_of_isOrdinary hs.quote hdepth fun c hc =>
        .inr (isOrdinary_of_isNameChar (hname.name c hc))
      have hblank : isBlank ' ' = true := by decide
      have hrest := ih (s := (level 0).next ' ') (by
        rw [next_of_isOrdinary rfl hspace]
        exact ⟨rfl, by decide⟩) (by rw [next_of_isOrdinary rfl hspace]; rfl)
        fun x hx => h x (.tail _ hx)
      rw [join, List.intercalate_cons_cons, List.append_assoc]
      simp only [List.cons_append, List.nil_append]
      rw [entriesFrom_append_comma hself, hname.entriesFrom_eq, entriesFrom_cons,
        cutsAt_of_isOrdinary hspace, hblank]
      simp only [Bool.false_eq_true, if_false, Bool.not_true, Bool.or_self]
      rw [← join, hrest]
      simp [Nat.add_comm]

end Multidialect.Text
