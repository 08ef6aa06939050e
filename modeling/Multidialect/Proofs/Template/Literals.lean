import Multidialect.Pattern.Reader
import Multidialect.Proofs.Template.Comparisons
import Mathlib.Data.List.Basic

/-! # The strings that literals stand for

A string literal of a script stands for a sequence of UTF-16 code units (`Literal.denoted`). A
backslash in front of most characters stands for the character, but some escapes stand for another
one (`Literal.special?`), and taking the backslash off is then wrong. So comparisons are folded
rightly as long as no literal has such an escape, and each literal that has one is compared wrongly
with some literal that has none (`Literal.fold_value_iff`).
-/

namespace Multidialect

open Text

namespace Literal

/-- A character in UTF-16. -/
def units (c : Char) : List Nat :=
  if c.toNat < 0x10000 then [c.toNat]
  else [0xD800 + (c.toNat - 0x10000) / 0x400, 0xDC00 + (c.toNat - 0x10000) % 0x400]

/-- The number that `n` hexadecimal digits at the front of a text spell, behind digits for `v`. -/
def hexNumber? (v : Nat) : Nat → Text → Option Nat
  | 0, _ => some v
  | _ + 1, [] => none
  | n + 1, c :: cs => (Pattern.hexDigit? c).bind fun d => hexNumber? (v * 16 + d) n cs

/-- The unit that a letter behind a backslash stands for. -/
def control? : Char → Option Nat
  | 'b' => some 0x8
  | 't' => some 0x9
  | 'n' => some 0xA
  | 'v' => some 0xB
  | 'f' => some 0xC
  | 'r' => some 0xD
  | '0' => some 0
  | _ => none

/-- The unit that an escape stands for, if it is not that of the character `c` behind the backslash,
and the number of further characters that belong to the escape. -/
def special? (c : Char) (rest : Text) : Option (Nat × Nat) :=
  if c = 'x' then (hexNumber? 0 2 rest).map (·, 2)
  else if c = 'u' then (hexNumber? 0 4 rest).map (·, 4)
  else (control? c).map (·, 0)

/-- The string that the body of a literal stands for, behind `skip` characters that belong to the
last escape. No body ends with a lone backslash. -/
def denotedFrom : Nat → Text → List Nat
  | _, [] => []
  | skip + 1, _ :: cs => denotedFrom skip cs
  | 0, ['\\'] => []
  | 0, '\\' :: c :: cs =>
    match special? c cs with
    | some (unit, n) => unit :: denotedFrom n cs
    | none => units c ++ denotedFrom 0 cs
  | 0, c :: cs => units c ++ denotedFrom 0 cs

/-- The string that the body of a literal stands for. -/
def denoted (body : Text) : List Nat := denotedFrom 0 body

/-- Each backslash of a body stands for the character behind it. -/
def isPlain : Text → Bool
  | [] => true
  | ['\\'] => true
  | '\\' :: c :: cs => (special? c cs).isNone && isPlain cs
  | _ :: cs => isPlain cs

/-! ## UTF-16 -/

theorem units_ne_nil (c : Char) : units c ≠ [] := by
  unfold units
  split <;> simp

/-- The first unit of a character tells how many there are. -/
theorem units_append_inj {c d : Char} {a b : List Nat} (h : units c ++ a = units d ++ b) :
    c = d ∧ a = b := by
  have hc : c.toNat < 0xD800 ∨ 0xDFFF < c.toNat ∧ c.toNat < 0x110000 := c.valid
  have hd : d.toNat < 0xD800 ∨ 0xDFFF < d.toNat ∧ d.toNat < 0x110000 := d.valid
  unfold units at h
  split at h <;> split at h <;>
    simp only [List.cons_append, List.nil_append, List.cons.injEq] at h
  · exact ⟨Char.toNat_inj.1 h.1, h.2⟩
  · omega
  · omega
  · exact ⟨Char.toNat_inj.1 (by omega), h.2.2⟩

theorem flatMap_units_inj {s t : Text} (h : s.flatMap units = t.flatMap units) : s = t := by
  induction s generalizing t with
  | nil =>
    cases t with
    | nil => rfl
    | cons d t => exact absurd (List.append_eq_nil_iff.1 h.symm).1 (units_ne_nil d)
  | cons c s ih =>
    cases t with
    | nil => exact absurd (List.append_eq_nil_iff.1 h).1 (units_ne_nil c)
    | cons d t =>
      obtain ⟨rfl, hrest⟩ := units_append_inj (by simpa using h)
      rw [ih hrest]

theorem length_le_flatMap_units (t : Text) : t.length ≤ (t.flatMap units).length := by
  induction t with
  | nil => simp
  | cons c t ih =>
    have hpos := List.length_pos_iff.2 (units_ne_nil c)
    rw [List.flatMap_cons, List.length_append, List.length_cons]
    omega

/-! ## Escapes -/

theorem unescape_char {c : Char} (h : c ≠ '\\') (cs : Text) :
    Comparison.unescape (c :: cs) = c :: Comparison.unescape cs := by
  cases cs <;> simp [Comparison.unescape, h]

theorem unescape_escape (c : Char) (cs : Text) :
    Comparison.unescape ('\\' :: c :: cs) = c :: Comparison.unescape cs := by
  simp [Comparison.unescape]

theorem unescape_append {t : Text} (h : ∀ c ∈ t, c ≠ '\\') (rest : Text) :
    Comparison.unescape (t ++ rest) = t ++ Comparison.unescape rest := by
  induction t with
  | nil => rfl
  | cons c t ih =>
    rw [List.cons_append, unescape_char (h c (.head _)), ih fun d hd => h d (.tail _ hd)]
    rfl

theorem denotedFrom_eq (n : Nat) (t : Text) : denotedFrom n t = denoted (t.drop n) := by
  induction n generalizing t with
  | zero => rfl
  | succ n ih =>
    cases t with
    | nil => simp [denotedFrom, denoted]
    | cons c cs => rw [denotedFrom, ih, List.drop_succ_cons]

theorem denoted_char {c : Char} (h : c ≠ '\\') (cs : Text) :
    denoted (c :: cs) = units c ++ denoted cs := by
  cases cs <;> simp [denoted, denotedFrom, h]

theorem denoted_escape {c : Char} {cs : Text} (h : special? c cs = none) :
    denoted ('\\' :: c :: cs) = units c ++ denoted cs := by
  simp [denoted, denotedFrom, h]

theorem denoted_special {c : Char} {cs : Text} {unit n : Nat} (h : special? c cs = some (unit, n)) :
    denoted ('\\' :: c :: cs) = unit :: denoted (cs.drop n) := by
  rw [← denotedFrom_eq]
  simp [denoted, denotedFrom, h]

theorem isPlain_char {c : Char} (h : c ≠ '\\') (cs : Text) : isPlain (c :: cs) = isPlain cs := by
  cases cs <;> simp [isPlain, h]

theorem ne_backslash_of_hexDigit? {c : Char} {d : Nat} (h : Pattern.hexDigit? c = some d) :
    c ≠ '\\' := by
  rintro rfl
  have hnone : Pattern.hexDigit? '\\' = none := by decide
  rw [hnone] at h
  cases h

theorem hexNumber?_eq_some {v n u : Nat} {t : Text} (h : hexNumber? v n t = some u) :
    (t.take n).length = n ∧ ∀ c ∈ t.take n, c ≠ '\\' := by
  induction n generalizing v t with
  | zero => simp
  | succ n ih =>
    cases t with
    | nil => cases h
    | cons c cs =>
      obtain ⟨d, hd, hrest⟩ := Option.bind_eq_some_iff.1 h
      obtain ⟨hlen, hdigits⟩ := ih hrest
      rw [List.take_succ_cons, List.length_cons, hlen, List.forall_mem_cons]
      exact ⟨rfl, ne_backslash_of_hexDigit? hd, hdigits⟩

/-- An escape for another unit has further characters, none of them a backslash, or is one letter,
which has a unit of its own. -/
theorem special?_eq_some {c : Char} {rest : Text} {unit n : Nat}
    (h : special? c rest = some (unit, n)) :
    (rest.take n).length = n ∧ (∀ d ∈ rest.take n, d ≠ '\\') ∧
      (n = 0 → units c = [c.toNat] ∧ unit ≠ c.toNat) := by
  unfold special? at h
  split at h
  · obtain ⟨v, hv, h⟩ := Option.map_eq_some_iff.1 h
    obtain ⟨rfl, rfl⟩ := Prod.mk.inj h
    exact ⟨(hexNumber?_eq_some hv).1, (hexNumber?_eq_some hv).2, by simp⟩
  · split at h
    · obtain ⟨v, hv, h⟩ := Option.map_eq_some_iff.1 h
      obtain ⟨rfl, rfl⟩ := Prod.mk.inj h
      exact ⟨(hexNumber?_eq_some hv).1, (hexNumber?_eq_some hv).2, by simp⟩
    · obtain ⟨v, hv, h⟩ := Option.map_eq_some_iff.1 h
      obtain ⟨rfl, rfl⟩ := Prod.mk.inj h
      refine ⟨by simp, by simp, fun _ => ?_⟩
      unfold control? at hv
      split at hv <;> first | cases hv; decide | cases hv

/-! ## Literals without special escapes -/

/-- Bodies are read by their escapes. Of what is behind a backslash any end may come next, as an
escape has several characters. -/
theorem escapeInduction {P : Text → Prop} (nil : P []) (lone : P ['\\'])
    (escape : ∀ c cs, (∀ n, P (cs.drop n)) → P ('\\' :: c :: cs))
    (char : ∀ c cs, c ≠ '\\' → P cs → P (c :: cs)) : ∀ l, P l
  | [] => nil
  | c :: cs => by
    by_cases hc : c = '\\'
    · subst hc
      cases cs with
      | nil => exact lone
      | cons c cs => exact escape c cs fun n => escapeInduction nil lone escape char (cs.drop n)
    · exact char c cs hc (escapeInduction nil lone escape char cs)
termination_by l => l.length
decreasing_by
  · simp only [List.length_drop, List.length_cons]
    omega
  · simp

/-- **Without special escapes** taking the backslashes off gives the string that is denoted. -/
theorem denoted_of_isPlain {l : Text} (h : isPlain l = true) :
    denoted l = (Comparison.unescape l).flatMap units := by
  induction l using escapeInduction with
  | nil => rfl
  | lone => rfl
  | escape c cs ih =>
    obtain ⟨hnone, hplain⟩ := Bool.and_eq_true_iff.1 h
    have hrest : denoted cs = (Comparison.unescape cs).flatMap units := ih 0 hplain
    rw [denoted_escape (Option.isNone_iff_eq_none.1 hnone), hrest, unescape_escape,
      List.flatMap_cons]
  | char c cs hc ih =>
    rw [isPlain_char hc] at h
    rw [denoted_char hc, ih h, unescape_char hc, List.flatMap_cons]

/-- Behind a special escape the backslashes are taken off its further characters and off the rest. -/
theorem unescape_special {c : Char} {cs : Text} {unit n : Nat}
    (h : special? c cs = some (unit, n)) :
    Comparison.unescape ('\\' :: c :: cs) =
      c :: (cs.take n ++ Comparison.unescape (cs.drop n)) := by
  rw [unescape_escape, ← unescape_append (special?_eq_some h).2.1, List.take_append_drop]

/-- A special escape leaves more characters behind than the units that it stands for. -/
theorem length_unescape_special {c : Char} {cs : Text} {unit n : Nat}
    (h : special? c cs = some (unit, n)) :
    ((Comparison.unescape (cs.drop n)).flatMap units).length + n + 1 ≤
      ((Comparison.unescape ('\\' :: c :: cs)).flatMap units).length := by
  have hdigits := length_le_flatMap_units (cs.take n)
  have hletter := List.length_pos_iff.2 (units_ne_nil c)
  rw [(special?_eq_some h).1] at hdigits
  rw [unescape_special h, List.flatMap_cons, List.flatMap_append, List.length_append,
    List.length_append]
  omega

/-- What is denoted is never longer than what is left without the backslashes. -/
theorem length_denoted_le (l : Text) :
    (denoted l).length ≤ ((Comparison.unescape l).flatMap units).length := by
  induction l using escapeInduction with
  | nil => exact Nat.le_refl _
  | lone => exact Nat.le_refl _
  | escape c cs ih =>
    cases hspecial : special? c cs with
    | none =>
      have hrest := ih 0
      rw [List.drop_zero] at hrest
      rw [denoted_escape hspecial, unescape_escape, List.flatMap_cons, List.length_append,
        List.length_append]
      omega
    | some found =>
      obtain ⟨unit, n⟩ := found
      have hrest := ih n
      have hmore := length_unescape_special hspecial
      rw [denoted_special hspecial, List.length_cons]
      omega
  | char c cs hc ih =>
    rw [denoted_char hc, unescape_char hc, List.flatMap_cons, List.length_append,
      List.length_append]
    omega

/-- **With a special escape** it gives another string. -/
theorem denoted_ne_of_not_isPlain {l : Text} (h : isPlain l = false) :
    denoted l ≠ (Comparison.unescape l).flatMap units := by
  induction l using escapeInduction with
  | nil => cases h
  | lone => cases h
  | escape c cs ih =>
    cases hspecial : special? c cs with
    | none =>
      have hrest : isPlain cs = false := by simpa [isPlain, hspecial] using h
      rw [denoted_escape hspecial, unescape_escape, List.flatMap_cons]
      exact fun heq => ih 0 hrest (List.append_cancel_left heq)
    | some found =>
      obtain ⟨unit, n⟩ := found
      intro heq
      have hlength := congrArg List.length heq
      have hmore := length_unescape_special hspecial
      have hrest := length_denoted_le (cs.drop n)
      rw [denoted_special hspecial, List.length_cons] at hlength
      -- Only an escape of one letter keeps the length, and its unit is not that of the letter.
      obtain rfl : n = 0 := by omega
      obtain ⟨hletter, hunit⟩ := (special?_eq_some hspecial).2.2 rfl
      rw [denoted_special hspecial, unescape_escape, List.flatMap_cons, hletter] at heq
      exact hunit (List.cons.inj heq).1
  | char c cs hc ih =>
    rw [isPlain_char hc] at h
    rw [denoted_char hc, unescape_char hc, List.flatMap_cons]
    exact fun heq => ih h (List.append_cancel_left heq)

/-! ## A literal for any characters -/

/-- The characters of a literal that stands for a text, with a backslash in front of quotes and
backslashes. -/
def written : Text → Text
  | [] => []
  | c :: t =>
    if Comparison.IsDelimiter c ∨ c = '\\' then '\\' :: c :: written t else c :: written t

theorem unescape_written (t : Text) : Comparison.unescape (written t) = t := by
  induction t with
  | nil => rfl
  | cons c t ih =>
    rw [written]
    split
    · rw [unescape_escape, ih]
    · rename_i hc
      rw [unescape_char (not_or.1 hc).2, ih]

theorem isPlain_written (t : Text) : isPlain (written t) = true := by
  induction t with
  | nil => rfl
  | cons c t ih =>
    rw [written]
    split
    · rename_i hc
      have hspecial : special? c (written t) = none := by rcases hc with (rfl | rfl) | rfl <;> rfl
      simp [isPlain, hspecial, ih]
    · rename_i hc
      rw [isPlain_char (not_or.1 hc).2, ih]

theorem isBody_written {q : Char} (hq : Comparison.IsDelimiter q) {t : Text} (ht : '\n' ∉ t) :
    Comparison.IsBody q (written t) := by
  induction t with
  | nil => exact .nil
  | cons c t ih =>
    obtain ⟨hfeed, hrest⟩ := not_or.1 fun h => ht (List.mem_cons.2 h)
    rw [written]
    split
    · exact .escape (Ne.symm hfeed) (ih hrest)
    · rename_i hc
      obtain ⟨hquote, hbackslash⟩ := not_or.1 hc
      exact .char (fun h => hquote (h ▸ hq)) (Ne.symm hfeed) hbackslash (ih hrest)

theorem notMem_unescape {q : Char} {l : Text} (h : Comparison.IsBody q l) :
    '\n' ∉ Comparison.unescape l := by
  induction h with
  | nil => simp [Comparison.unescape]
  | char _ hn hb _ ih => rw [unescape_char hb, List.mem_cons, not_or]; exact ⟨Ne.symm hn, ih⟩
  | escape hn _ ih => rw [unescape_escape, List.mem_cons, not_or]; exact ⟨Ne.symm hn, ih⟩

/-! ## Folding -/

/-- The value of a comparison in the script. -/
def truth (c : Comparison) : Bool := decide (denoted c.left = denoted c.right) != c.negated

theorem value_eq_truth_iff {c : Comparison} :
    c.value = truth c ↔
      (Comparison.unescape c.left = Comparison.unescape c.right ↔
        denoted c.left = denoted c.right) := by
  rw [Comparison.value, truth, Bool.eq_iff_iff]
  cases c.negated <;> simp [not_iff_not]

/-- Two literals without special escapes stand for the same string exactly if they are the same but
for backslashes. -/
theorem value_eq_truth {c : Comparison} (hleft : isPlain c.left = true)
    (hright : isPlain c.right = true) : c.value = truth c := by
  rw [value_eq_truth_iff, denoted_of_isPlain hleft, denoted_of_isPlain hright]
  exact ⟨congrArg _, flatMap_units_inj⟩

/-- A literal with a special escape is not what it is taken for. -/
theorem value_ne_truth {l : Text} (h : isPlain l = false) :
    Comparison.value ⟨l, false, written (Comparison.unescape l)⟩ ≠
      truth ⟨l, false, written (Comparison.unescape l)⟩ := by
  intro heq
  have hsame := (value_eq_truth_iff.1 heq).1 (unescape_written _).symm
  rw [denoted_of_isPlain (isPlain_written _), unescape_written] at hsame
  exact denoted_ne_of_not_isPlain h hsame

open Comparison (IsDelimiter IsBody Written site)

/-- **Comparisons are folded to their value** if their literals have no special escapes. Any
comparison is folded rightly exactly if its literals are the same without backslashes just when they
stand for the same string. A literal is compared rightly with every literal that has no special
escapes, on either side and in every text, exactly if it has none itself. -/
theorem fold_value_iff {q : Char} {l : Text} (hq : IsDelimiter q) (hl : IsBody q l) :
    (∀ (t : Text) (b : Bool) (w : Written), Piece.site (some b) w.text ∈ pieces site t →
      w.left = l ∨ w.right = l → (b = truth w.toComparison ↔
        (Comparison.unescape w.left = Comparison.unescape w.right ↔
          denoted w.left = denoted w.right))) ∧
    ((∀ (t : Text) (b : Bool) (w : Written), Piece.site (some b) w.text ∈ pieces site t →
      w.left = l ∧ isPlain w.right = true ∨ w.right = l ∧ isPlain w.left = true →
        b = truth w.toComparison) ↔ isPlain l = true) := by
  refine ⟨fun t b w hm _ => ?_, fun h => ?_, fun hplain t b w hm hw => ?_⟩
  · rw [Comparison.value_of_mem_pieces hm, value_eq_truth_iff]
  · by_contra hplain
    have hwrong : isPlain l = false := Bool.eq_false_iff.2 hplain
    have hbody := isBody_written (.inr rfl) (notMem_unescape hl)
    let w : Written := ⟨⟨l, false, written (Comparison.unescape l)⟩, q, [], [], '"', hq, hl,
      by simp, by simp, .inr rfl, hbody⟩
    have hb := h w.text w.value w (Comparison.mem_pieces_text w) (.inl ⟨rfl, isPlain_written _⟩)
    exact value_ne_truth hwrong hb
  · rw [Comparison.value_of_mem_pieces hm]
    rcases hw with ⟨rfl, hright⟩ | ⟨rfl, hleft⟩
    · exact value_eq_truth hplain hright
    · exact value_eq_truth hleft hplain

/-- An escaped quote is no special escape. -/
theorem fold_value_quote :
    IsDelimiter '\'' ∧ IsBody '\'' "it\\'s".toList ∧
      ∀ (t : Text) (b : Bool) (w : Written), Piece.site (some b) w.text ∈ pieces site t →
        w.left = "it\\'s".toList ∧ isPlain w.right = true ∨
          w.right = "it\\'s".toList ∧ isPlain w.left = true → b = truth w.toComparison := by
  have hbody : Comparison.body? '\'' "it\\'s'".toList = some ("it\\'s".toList, []) := by
    simp [Comparison.body?]
  have hl := ((Comparison.body?_iff (.inl rfl)).1 hbody).1
  have hplain : isPlain "it\\'s".toList = true := rfl
  exact ⟨.inl rfl, hl, (fold_value_iff (.inl rfl) hl).2.2 hplain⟩

/-- A line feed that is written as an escape is taken for a letter. -/
theorem fold_mistakes_feed :
    Comparison.fold "x = '\\n' === 'n'".toList = "x = true".toList ∧
      denoted "\\n".toList = [0xA] ∧ denoted "n".toList = [0x6E] := by decide +kernel

end Literal

end Multidialect
