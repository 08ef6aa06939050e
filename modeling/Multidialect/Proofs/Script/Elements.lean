import Multidialect.Proofs.Template.Comparisons
import Mathlib.Data.List.Basic

/-! # The elements of a script

A script is read from left to right as white space, comments, words, numbers, string literals and
punctuators, each as long as it can be. Templates and regular expressions are no elements here.

* `front?`: the element at the front of a text, and what follows it.
* `Reads`: a text read element by element.
* `shape_of_front?`: what the characters of an element are, and where it ends.
-/

namespace Multidialect.Script

open Unicode Text
open Comparison (IsDelimiter)

/-! ## Characters -/

/-- The end of a line. -/
def isTerminator (c : Char) : Bool := c == '\n' || c == '\r' || c == '\u2028' || c == '\u2029'

/-- White space between elements: that of a text, but with the byte order mark and without the next
line character. -/
def isSpace (c : Char) : Bool := (isBlank c && c != '\u0085') || c == '\ufeff'

/-- The property Other_ID_Start. -/
def otherStart : Ranges := [(0x1885, 0x1886), (0x2118, 0x2118), (0x212E, 0x212E), (0x309B, 0x309C)]

/-- The property Other_ID_Continue, with the joiners. -/
def otherContinue : Ranges := [
  (0xB7, 0xB7), (0x387, 0x387), (0x1369, 0x1371), (0x19DA, 0x19DA), (0x200C, 0x200D),
  (0x30FB, 0x30FB), (0xFF65, 0xFF65)]

/-- What a name can start with. -/
def startsName (c : Char) : Bool :=
  c == '$' || c == '_' || (c != '\u2e2f' &&
    [uppercaseLetter, lowercaseLetter, titlecaseLetter, modifierLetter, otherLetter, letterNumber,
      otherStart].any (·.contains c.toNat))

/-- What a name can go on with. -/
def continuesName (c : Char) : Bool :=
  startsName c || [nonspacingMark, spacingMark, decimalNumber, connectorPunctuation,
    otherContinue].any (·.contains c.toNat)

/-! ## Elements -/

/-- The kinds of elements. -/
inductive Kind where
  | space
  | lineComment
  | blockComment
  | word
  | number
  | literal
  | punctuator
  deriving DecidableEq, Repr

/-- An element, as it is written. -/
structure Element where
  kind : Kind
  source : Text
  deriving DecidableEq, Repr

/-- Whether an element is a token: neither white space nor a comment. -/
def Element.isToken (e : Element) : Bool :=
  match e.kind with
  | .space | .lineComment | .blockComment => false
  | .word | .number | .literal | .punctuator => true

/-- What stands in a block comment up to its end, and what follows it. -/
def closeComment? : Text → Option (Text × Text)
  | [] => none
  | c :: cs =>
    match c, cs with
    | '*', '/' :: rest => some ([], rest)
    | _, _ => (closeComment? cs).map fun (inner, rest) => (c :: inner, rest)

/-- What stands in a literal up to its quote `q`, and what follows it. A backslash takes a line end
along. -/
def quoted? (q : Char) : Text → Option (Text × Text)
  | '\\' :: '\r' :: '\n' :: cs =>
    (quoted? q cs).map fun (body, rest) => ('\\' :: '\r' :: '\n' :: body, rest)
  | '\\' :: c :: cs => (quoted? q cs).map fun (body, rest) => ('\\' :: c :: body, rest)
  | c :: cs =>
    if c = q then some ([], cs)
    else if c = '\\' ∨ c = '\n' ∨ c = '\r' then none
    else (quoted? q cs).map fun (body, rest) => (c :: body, rest)
  | [] => none

/-- Whether a character is a digit of a hexadecimal number. -/
def isHex (c : Char) : Bool := c.isDigit || ('a' ≤ c && c ≤ 'f') || ('A' ≤ c && c ≤ 'F')

/-- The characters that go on with a name, escapes included; `braced` tells that the number of an
escape is being read. -/
def nameRun? : (braced : Bool) → Text → Option Text
  | false, '\\' :: 'u' :: '\x7b' :: cs =>
    (nameRun? true cs).map fun run => '\\' :: 'u' :: '\x7b' :: run
  | false, '\\' :: 'u' :: cs => (nameRun? false cs).map fun run => '\\' :: 'u' :: run
  | false, c :: cs => if continuesName c then (nameRun? false cs).map fun run => c :: run else some []
  | false, [] => some []
  | true, c :: cs =>
    if c = '\x7d' then (nameRun? false cs).map fun run => c :: run
    else if isHex c then (nameRun? true cs).map fun run => c :: run
    else none
  | true, [] => none

/-- Whether a name starts here. -/
def startsWord : Text → Bool
  | '\\' :: 'u' :: _ => true
  | c :: _ => startsName c
  | [] => false

/-- The name or keyword at the front of a text; a private name has `#` in front. -/
def word? : Text → Option Text
  | '#' :: cs => if startsWord cs then (nameRun? false cs).map fun run => '#' :: run else none
  | cs => if startsWord cs then nameRun? false cs else none

/-- Whether a run of characters is a decimal number without point and exponent. -/
def isDigits (run : Text) : Bool := run.all fun c => c.isDigit || c == '_'

/-- The sign of an exponent and the digits behind it, if `run` leaves off at the exponent's letter. -/
def exponent (run : Text) : Text → Text
  | [] => []
  | c :: cs =>
    if (c == '+' || c == '-') && (run.getLast? == some 'e' || run.getLast? == some 'E') &&
        isDigits run.dropLast then c :: cs.takeWhile continuesName
    else []

/-- The digits and letters at the front of a text, with the exponent. -/
def digitRun (t : Text) : Text :=
  t.takeWhile continuesName ++ exponent (t.takeWhile continuesName) (t.dropWhile continuesName)

/-- The number at the front of a text. -/
def number? : Text → Option Text
  | [] => none
  | c :: cs =>
    if c.isDigit then
      match (c :: cs).dropWhile continuesName with
      | '.' :: rest =>
        let run := (c :: cs).takeWhile continuesName
        if isDigits run then some (run ++ '.' :: digitRun rest) else some run
      | _ => some (digitRun (c :: cs))
    else if c == '.' && cs.head?.any Char.isDigit then some (c :: digitRun cs)
    else none

/-- The punctuators, longer ones first. -/
def punctuators : List Text :=
  [">>>=", "...", "===", "!==", "**=", "<<=", ">>=", ">>>", "&&=", "||=", "??=", "=>", "==", "!=",
    "<=", ">=", "&&", "||", "??", "?.", "++", "--", "+=", "-=", "*=", "/=", "%=", "&=", "|=", "^=",
    "<<", ">>", "**", "\x7b", "\x7d", "(", ")", "[", "]", ";", ",", "<", ">", "+", "-", "*", "/", "%",
    "&", "|", "^", "!", "~", "?", ":", "=", ".", "@"].map String.toList

/-- The punctuator at the front of a text; `?.` is none in front of a digit. -/
def punctuator? (t : Text) : Option Text :=
  punctuators.find? fun p =>
    p.isPrefixOf t && !(p == ['?', '.'] && (t.drop 2).head?.any Char.isDigit)

/-- The element at the front of a text, and what follows it. -/
def front? : Text → Option (Element × Text)
  | [] => none
  | '/' :: '/' :: rest =>
    some (⟨.lineComment, '/' :: '/' :: rest.takeWhile (!isTerminator ·)⟩,
      rest.dropWhile (!isTerminator ·))
  | '/' :: '*' :: rest =>
    (closeComment? rest).map fun (inner, rest) =>
      (⟨.blockComment, '/' :: '*' :: (inner ++ ['*', '/'])⟩, rest)
  | c :: rest =>
    if isSpace c then some (⟨.space, [c]⟩, rest)
    else if IsDelimiter c then
      (quoted? c rest).map fun (body, rest) => (⟨.literal, c :: (body ++ [c])⟩, rest)
    else
      (((number? (c :: rest)).map (Element.mk .number)).or
        (((word? (c :: rest)).map (Element.mk .word)).or
          ((punctuator? (c :: rest)).map (Element.mk .punctuator)))).map fun e =>
        (e, (c :: rest).drop e.source.length)

/-- A text is read as elements from its front to its end. -/
inductive Reads : Text → List Element → Prop
  | nil : Reads [] []
  | cons {t rest : Text} {e : Element} {es : List Element} : front? t = some (e, rest) →
      Reads rest es → Reads t (e :: es)

/-- Whether a text is read as these elements. -/
def readsAs : Text → List Element → Bool
  | t, [] => t.isEmpty
  | t, e :: es =>
    match front? t with
    | some (e', rest) => e' == e && readsAs rest es
    | none => false

theorem readsAs_iff {t : Text} {es : List Element} : readsAs t es = true ↔ Reads t es := by
  constructor
  · intro h
    induction es generalizing t with
    | nil => exact List.isEmpty_iff.1 h ▸ .nil
    | cons e es ih =>
      rw [readsAs] at h
      split at h
      · rename_i e' rest hfront
        obtain ⟨he, hrest⟩ := Bool.and_eq_true_iff.1 h
        obtain rfl := beq_iff_eq.1 he
        exact .cons hfront (ih hrest)
      · cases h
  · intro h
    induction h with
    | nil => rfl
    | cons hfront _ ih =>
      rw [readsAs, hfront]
      simpa using ih

instance (t : Text) (es : List Element) : Decidable (Reads t es) :=
  decidable_of_iff (readsAs t es = true) readsAs_iff

/-- The characters of elements. -/
def text (es : List Element) : Text := es.flatMap Element.source

/-! ## Characters of elements -/

/-- A character of words and numbers. -/
def isBare (c : Char) : Bool :=
  continuesName c || ['#', '\\', '\x7b', '\x7d', '.', '+', '-'].contains c

theorem isBare_of_continues {c : Char} (h : continuesName c = true) : isBare c = true := by
  simp [isBare, h]

theorem not_continuesName_of_blank {c : Char} (h : isBlank c = true) : continuesName c = false := by
  have hdollar : c ≠ '$' := ne_of_isBlank h (by decide)
  have hline : c ≠ '_' := ne_of_isBlank h (by decide)
  have hnone := not_contains_of_isBlank [uppercaseLetter, lowercaseLetter, titlecaseLetter,
    modifierLetter, otherLetter, letterNumber, otherStart, nonspacingMark, spacingMark,
    decimalNumber, connectorPunctuation, otherContinue] (by decide +kernel) h
  simp only [List.forall_mem_cons] at hnone
  simp [continuesName, startsName, hdollar, hline, hnone]

theorem isDigit_continues {c : Char} (h : c.isDigit = true) : continuesName c = true :=
  forall_ascii (P := fun c => c.isDigit = true → continuesName c = true) (by decide)
    (toNat_lt_of_val_le (of_decide_eq_true (Bool.and_eq_true_iff.1 h).2) (by decide)) h

theorem isHex_continues {c : Char} (h : isHex c = true) : continuesName c = true := by
  have hlt : c.toNat < 128 := by
    rcases Bool.or_eq_true_iff.1 h with hc | hc
    · rcases Bool.or_eq_true_iff.1 hc with hdigit | hlower
      · exact toNat_lt_of_val_le (of_decide_eq_true (Bool.and_eq_true_iff.1 hdigit).2) (by decide)
      · exact toNat_lt_of_val_le (of_decide_eq_true (Bool.and_eq_true_iff.1 hlower).2) (by decide)
    · exact toNat_lt_of_val_le (of_decide_eq_true (Bool.and_eq_true_iff.1 hc).2) (by decide)
  exact forall_ascii (P := fun c => isHex c = true → continuesName c = true) (by decide) hlt h

theorem isBare_takeWhile (t : Text) :
    ∀ c ∈ t.takeWhile continuesName, isBare c = true ∧ c ≠ '\\' := by
  intro c hc
  have hcontinues := all_takeWhile c hc
  refine ⟨isBare_of_continues hcontinues, ?_⟩
  rintro rfl
  exact absurd hcontinues (by decide)

/-- The characters of a word or a number that a text starts with. -/
structure IsRun (t run : Text) : Prop where
  split : ∃ rest, t = run ++ rest ∧ rest.head?.any continuesName = false
  bare : ∀ c ∈ run, isBare c = true
  last : run.getLast? ≠ some '\\'

namespace IsRun

theorem nil {t : Text} (h : t.head?.any continuesName = false) : IsRun t [] :=
  ⟨⟨t, rfl, h⟩, by simp, by simp⟩

theorem cons {t run : Text} {c : Char} (hc : isBare c = true) (hne : c ≠ '\\') (h : IsRun t run) :
    IsRun (c :: t) (c :: run) := by
  obtain ⟨⟨rest, rfl, hrest⟩, hbare, hlast⟩ := h
  refine ⟨⟨rest, rfl, hrest⟩, ?_, ?_⟩
  · simpa [hc] using hbare
  · cases hrun : run.getLast? with
    | none => simpa [List.getLast?_cons, hrun] using hne
    | some d => simpa [List.getLast?_cons, hrun] using hlast

theorem escape {t run : Text} (h : IsRun t run) : IsRun ('\\' :: 'u' :: t) ('\\' :: 'u' :: run) := by
  have hu : IsRun ('u' :: t) ('u' :: run) := cons (by decide) (by decide) h
  obtain ⟨⟨rest, hsplit, hrest⟩, hbare, hlast⟩ := hu
  refine ⟨⟨rest, by rw [hsplit]; rfl, hrest⟩, ?_, ?_⟩
  · intro c hc
    rcases List.mem_cons.1 hc with rfl | hc
    · decide
    · exact hbare c hc
  · rwa [List.getLast?_cons_cons]

theorem append {t run u : Text} (hu : ∀ c ∈ u, isBare c = true ∧ c ≠ '\\') (h : IsRun t run) :
    IsRun (u ++ t) (u ++ run) := by
  induction u with
  | nil => exact h
  | cons c u ih =>
    exact cons (hu c (.head _)).1 (hu c (.head _)).2 (ih fun d hd => hu d (.tail _ hd))

theorem takeWhile (t : Text) : IsRun t (t.takeWhile continuesName) := by
  have happend := append (isBare_takeWhile t) (nil (t := t.dropWhile continuesName) head?_dropWhile)
  rwa [List.takeWhile_append_dropWhile, List.append_nil] at happend

theorem eq_append {t run : Text} (h : IsRun t run) : t = run ++ t.drop run.length := by
  obtain ⟨⟨rest, rfl, -⟩, -⟩ := h
  rw [List.drop_left]

end IsRun

/-- What the characters of an element are, and what may follow it. -/
inductive Shape : Element → Text → Prop
  | space {c : Char} {rest : Text} : isSpace c = true → Shape ⟨.space, [c]⟩ rest
  | lineComment {u rest : Text} : (∀ c ∈ u, isTerminator c = false) →
      (∀ c, rest.head? = some c → isTerminator c = true) →
      Shape ⟨.lineComment, '/' :: '/' :: u⟩ rest
  | blockComment {u rest : Text} : Shape ⟨.blockComment, '/' :: '*' :: (u ++ ['*', '/'])⟩ rest
  | literal {q : Char} {body rest : Text} : IsDelimiter q →
      quoted? q (body ++ q :: rest) = some (body, rest) → Shape ⟨.literal, q :: (body ++ [q])⟩ rest
  | bare {kind : Kind} {u rest : Text} : kind = .word ∨ kind = .number → u ≠ [] →
      (∀ c ∈ u, isBare c = true) → u.getLast? ≠ some '\\' →
      rest.head?.any continuesName = false → Shape ⟨kind, u⟩ rest
  | punctuator {p rest : Text} : p ∈ punctuators → Shape ⟨.punctuator, p⟩ rest

theorem IsRun.shape {kind : Kind} {t run : Text} (hkind : kind = .word ∨ kind = .number)
    (h : IsRun t run) (hne : run ≠ []) : Shape ⟨kind, run⟩ (t.drop run.length) := by
  obtain ⟨⟨rest, rfl, hrest⟩, hbare, hlast⟩ := h
  rw [List.drop_left]
  exact .bare hkind hne hbare hlast hrest

theorem closeComment?_eq_some {t inner rest : Text} (h : closeComment? t = some (inner, rest)) :
    t = inner ++ '*' :: '/' :: rest := by
  fun_induction closeComment? t generalizing inner with
  | case1 => cases h
  | case2 rest' =>
    obtain ⟨rfl, rfl⟩ := Prod.mk.inj (Option.some.inj h)
    rfl
  | case3 c cs _ ih =>
    obtain ⟨⟨more, rest'⟩, hmore, h⟩ := Option.map_eq_some_iff.1 h
    obtain ⟨rfl, rfl⟩ := Prod.mk.inj h
    rw [ih hmore]
    rfl

theorem quoted?_eq_some {q : Char} {t body rest : Text} (h : quoted? q t = some (body, rest)) :
    t = body ++ q :: rest := by
  fun_induction quoted? q t generalizing body with
  | case1 cs ih =>
    obtain ⟨⟨more, rest'⟩, hmore, h⟩ := Option.map_eq_some_iff.1 h
    obtain ⟨rfl, rfl⟩ := Prod.mk.inj h
    rw [ih hmore]
    rfl
  | case2 c cs _ ih =>
    obtain ⟨⟨more, rest'⟩, hmore, h⟩ := Option.map_eq_some_iff.1 h
    obtain ⟨rfl, rfl⟩ := Prod.mk.inj h
    rw [ih hmore]
    rfl
  | case3 cs =>
    obtain ⟨rfl, rfl⟩ := Prod.mk.inj (Option.some.inj h)
    rfl
  | case4 => cases h
  | case5 c cs _ _ _ _ ih =>
    obtain ⟨⟨more, rest'⟩, hmore, h⟩ := Option.map_eq_some_iff.1 h
    obtain ⟨rfl, rfl⟩ := Prod.mk.inj h
    rw [ih hmore]
    rfl
  | case6 => cases h

theorem isRun_of_nameRun? {braced : Bool} {t run : Text} (h : nameRun? braced t = some run) :
    IsRun t run := by
  fun_induction nameRun? braced t generalizing run with
  | case1 cs ih =>
    obtain ⟨more, hmore, rfl⟩ := Option.map_eq_some_iff.1 h
    exact ((ih hmore).cons (by decide) (by decide)).escape
  | case2 cs _ ih =>
    obtain ⟨more, hmore, rfl⟩ := Option.map_eq_some_iff.1 h
    exact (ih hmore).escape
  | case3 c cs _ _ hc ih =>
    obtain ⟨more, hmore, rfl⟩ := Option.map_eq_some_iff.1 h
    refine (ih hmore).cons (isBare_of_continues hc) ?_
    rintro rfl
    exact absurd hc (by decide)
  | case4 c cs _ _ hc =>
    obtain rfl := Option.some.inj h
    exact .nil (by simpa using hc)
  | case5 =>
    obtain rfl := Option.some.inj h
    exact .nil rfl
  | case6 cs ih =>
    obtain ⟨more, hmore, rfl⟩ := Option.map_eq_some_iff.1 h
    exact (ih hmore).cons (by decide) (by decide)
  | case7 c cs _ hc ih =>
    obtain ⟨more, hmore, rfl⟩ := Option.map_eq_some_iff.1 h
    refine (ih hmore).cons (isBare_of_continues (isHex_continues hc)) ?_
    rintro rfl
    exact absurd hc (by decide)
  | case8 => cases h
  | case9 => cases h

theorem nameRun?_ne_nil {t run : Text} (h : nameRun? false t = some run)
    (hstart : startsWord t = true) : run ≠ [] := by
  rintro rfl
  unfold startsWord at hstart
  split at hstart
  · rename_i rest
    rcases rest with _ | ⟨c, rest⟩
    · cases h
    · by_cases hc : c = '\x7b'
      · rw [hc, nameRun?] at h
        obtain ⟨run, -, hrun⟩ := Option.map_eq_some_iff.1 h
        cases hrun
      · rw [nameRun?] at h
        · obtain ⟨run, -, hrun⟩ := Option.map_eq_some_iff.1 h
          cases hrun
        · exact fun _ heq => hc (List.cons.inj heq).1
  · rename_i c cs _
    obtain ⟨⟨rest, hsplit, hrest⟩, -⟩ := isRun_of_nameRun? h
    rw [← List.nil_append rest, ← hsplit] at hrest
    simp [continuesName, hstart] at hrest
  · cases hstart

theorem isRun_of_word? {t u : Text} (h : word? t = some u) : IsRun t u ∧ u ≠ [] := by
  unfold word? at h
  split at h
  · split at h
    · rename_i hstart
      obtain ⟨run, hrun, rfl⟩ := Option.map_eq_some_iff.1 h
      exact ⟨(isRun_of_nameRun? hrun).cons (by decide) (by decide), List.cons_ne_nil _ _⟩
    · cases h
  · split at h
    · rename_i hstart
      exact ⟨isRun_of_nameRun? h, nameRun?_ne_nil h hstart⟩
    · cases h

theorem isRun_exponent (run : Text) {t : Text} (ht : t.head?.any continuesName = false) :
    IsRun t (exponent run t) := by
  cases t with
  | nil => exact .nil rfl
  | cons c cs =>
    rw [exponent]
    split
    · rename_i h
      simp only [Bool.and_eq_true, Bool.or_eq_true, beq_iff_eq] at h
      refine (IsRun.takeWhile cs).cons ?_ ?_
      · rcases h.1.1 with rfl | rfl <;> decide
      · rcases h.1.1 with rfl | rfl <;> decide
    · exact .nil ht

theorem isRun_digitRun (t : Text) : IsRun t (digitRun t) := by
  have happend := (isRun_exponent (t.takeWhile continuesName) (t := t.dropWhile continuesName)
    head?_dropWhile).append (isBare_takeWhile t)
  rwa [List.takeWhile_append_dropWhile] at happend

theorem isRun_of_number? {t u : Text} (h : number? t = some u) : IsRun t u ∧ u ≠ [] := by
  cases t with
  | nil => cases h
  | cons c cs =>
    rw [number?] at h
    split at h
    · rename_i hc
      have hne : (c :: cs).takeWhile continuesName ≠ [] := by simp [isDigit_continues hc]
      split at h
      · rename_i rest hrest
        dsimp only at h
        split at h
        · obtain rfl := Option.some.inj h
          have hpoint : IsRun ('.' :: rest) ('.' :: digitRun rest) :=
            (isRun_digitRun rest).cons (by decide) (by decide)
          have happend := hpoint.append (isBare_takeWhile (c :: cs))
          rw [← hrest, List.takeWhile_append_dropWhile] at happend
          exact ⟨happend, by simp⟩
        · obtain rfl := Option.some.inj h
          exact ⟨.takeWhile _, hne⟩
      · obtain rfl := Option.some.inj h
        exact ⟨isRun_digitRun _, by simp [digitRun, isDigit_continues hc]⟩
    · split at h
      · rename_i hc
        obtain rfl := Option.some.inj h
        obtain rfl := beq_iff_eq.1 (Bool.and_eq_true_iff.1 hc).1
        exact ⟨(isRun_digitRun cs).cons (by decide) (by decide), List.cons_ne_nil _ _⟩
      · cases h

theorem punctuator?_eq_some {t p : Text} (h : punctuator? t = some p) :
    p ∈ punctuators ∧ t = p ++ t.drop p.length := by
  refine ⟨List.mem_of_find?_eq_some h, ?_⟩
  have hfound := List.find?_some (p := fun p : Text =>
    p.isPrefixOf t && !(p == ['?', '.'] && (t.drop 2).head?.any Char.isDigit)) h
  obtain ⟨rest, rfl⟩ := List.isPrefixOf_iff_prefix.1 (Bool.and_eq_true_iff.1 hfound).1
  rw [List.drop_left]

theorem shape_of_front? {t rest : Text} {e : Element} (h : front? t = some (e, rest)) :
    t = e.source ++ rest ∧ Shape e rest := by
  unfold front? at h
  split at h
  · cases h
  · rename_i more
    obtain ⟨rfl, rfl⟩ := Prod.mk.inj (Option.some.inj h)
    refine ⟨by simp, .lineComment (fun c hc => by simpa using all_takeWhile c hc) fun c hc => ?_⟩
    have hstop := head?_dropWhile (p := (!isTerminator ·)) (t := more)
    simpa [hc] using hstop
  · obtain ⟨⟨inner, rest'⟩, hinner, h⟩ := Option.map_eq_some_iff.1 h
    obtain ⟨rfl, rfl⟩ := Prod.mk.inj h
    exact ⟨by simp [closeComment?_eq_some hinner], .blockComment⟩
  · rename_i c more _ _
    split at h
    · rename_i hspace
      obtain ⟨rfl, rfl⟩ := Prod.mk.inj (Option.some.inj h)
      exact ⟨rfl, .space hspace⟩
    · split at h
      · rename_i hquote
        obtain ⟨⟨body, rest'⟩, hbody, h⟩ := Option.map_eq_some_iff.1 h
        obtain ⟨rfl, rfl⟩ := Prod.mk.inj h
        have hsplit := quoted?_eq_some hbody
        rw [hsplit] at hbody
        exact ⟨by simp [hsplit], .literal hquote hbody⟩
      · obtain ⟨e', he, h⟩ := Option.map_eq_some_iff.1 h
        obtain ⟨rfl, rfl⟩ := Prod.mk.inj h
        rcases Option.or_eq_some_iff.1 he with he | ⟨-, he⟩
        · obtain ⟨u, hu, rfl⟩ := Option.map_eq_some_iff.1 he
          obtain ⟨hrun, hne⟩ := isRun_of_number? hu
          exact ⟨hrun.eq_append, hrun.shape (.inr rfl) hne⟩
        · rcases Option.or_eq_some_iff.1 he with he | ⟨-, he⟩
          · obtain ⟨u, hu, rfl⟩ := Option.map_eq_some_iff.1 he
            obtain ⟨hrun, hne⟩ := isRun_of_word? hu
            exact ⟨hrun.eq_append, hrun.shape (.inl rfl) hne⟩
          · obtain ⟨p, hp, rfl⟩ := Option.map_eq_some_iff.1 he
            obtain ⟨hmem, hsplit⟩ := punctuator?_eq_some hp
            exact ⟨hsplit, .punctuator hmem⟩

end Multidialect.Script
