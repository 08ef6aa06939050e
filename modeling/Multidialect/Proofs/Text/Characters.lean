import Multidialect.Text.Nesting

/-! # Classes of characters

White space is no part of a word or of a name, and neither is any character that a parameter list is
cut by.
-/

namespace Multidialect

namespace Unicode

namespace Ranges

/-- Whether a range has no code point with any of the ranges in common. -/
def misses (x : Nat × Nat) : Ranges → Bool
  | [] => true
  | r :: rest => Nat.blt x.2 r.1 || (Nat.blt r.2 x.1 && misses x rest)

theorem exists_of_contains {r : Ranges} {n : Nat} (h : r.contains n = true) :
    ∃ x ∈ r, x.1 ≤ n ∧ n ≤ x.2 := by
  induction r with
  | nil => simp [contains_nil] at h
  | cons x r ih =>
    rw [contains_cons, Bool.and_eq_true, Bool.or_eq_true, decide_eq_true_eq, decide_eq_true_eq] at h
    obtain ⟨hlo, hhi | h⟩ := h
    · exact ⟨x, .head _, hlo, hhi⟩
    · obtain ⟨y, hy, hn⟩ := ih h
      exact ⟨y, .tail _ hy, hn⟩

theorem contains_eq_false_of_misses {x : Nat × Nat} {r : Ranges} (h : r.misses x = true) {n : Nat}
    (hlo : x.1 ≤ n) (hhi : n ≤ x.2) : r.contains n = false := by
  induction r with
  | nil => rfl
  | cons y r ih =>
    simp only [misses, Bool.or_eq_true, Bool.and_eq_true, Nat.blt_eq] at h
    rw [contains_cons]
    rcases h with h | ⟨h, hrest⟩
    · simp [show ¬ y.1 ≤ n by omega]
    · simp [show ¬ n ≤ y.2 by omega, ih hrest]

end Ranges

theorem not_contains_of_isBlank (tables : List Ranges)
    (h : whiteSpace.all (fun x => tables.all (·.misses x)) = true) {c : Char}
    (hc : isBlank c = true) : ∀ r ∈ tables, r.contains c.toNat = false := by
  intro r hr
  obtain ⟨x, hx, hlo, hhi⟩ := Ranges.exists_of_contains hc
  exact Ranges.contains_eq_false_of_misses (List.all_eq_true.1 (List.all_eq_true.1 h x hx) r hr) hlo hhi

theorem not_isWordChar_of_isBlank {c : Char} (h : isBlank c = true) : isWordChar c = false := by
  have hnone := not_contains_of_isBlank [alphabetic, decimalNumber, connectorPunctuation,
    nonspacingMark, spacingMark, enclosingMark, joinControl] (by decide +kernel) h
  simp only [List.forall_mem_cons] at hnone
  simp [isWordChar, isAlphabetic, isDecimal, isMark, hnone]

theorem not_isAlphanumeric_of_isBlank {c : Char} (h : isBlank c = true) :
    isAlphanumeric c = false := by
  have hnone := not_contains_of_isBlank [alphabetic, decimalNumber, letterNumber, otherNumber]
    (by decide +kernel) h
  simp only [List.forall_mem_cons] at hnone
  simp [isAlphanumeric, isAlphabetic, isNumeric, hnone]

/-- What holds of the first 128 characters. -/
theorem forall_ascii {P : Char → Prop} (h : ∀ n < 128, P (Char.ofNat n)) {c : Char}
    (hc : c.toNat < 128) : P c := by
  have hcode := h c.toNat hc
  rwa [Char.ofNat_toNat] at hcode

theorem toNat_lt_of_val_le {c : Char} {last : UInt32} (h : c.val ≤ last) (hlast : last < 128) :
    c.toNat < 128 :=
  UInt32.lt_iff_toNat_lt.1 (UInt32.lt_of_le_of_lt h hlast)

end Unicode

namespace Text

open Nesting

/-! ## Runs of characters -/

/-- A run of characters is told by where it stops. -/
theorem run_unique {p : Char → Bool} {u v u' v' : Text} (h : u ++ v = u' ++ v')
    (hu : ∀ c ∈ u, p c = true) (hv : v.head?.any p = false) (hu' : ∀ c ∈ u', p c = true)
    (hv' : v'.head?.any p = false) : u = u' ∧ v = v' := by
  rcases List.append_eq_append_iff.1 h with ⟨more, rfl, rfl⟩ | ⟨more, rfl, rfl⟩
  · cases more with
    | nil => simp
    | cons c more =>
      have hc := hu' c (by simp)
      simp [hc] at hv
  · cases more with
    | nil => simp
    | cons c more =>
      have hc := hu c (by simp)
      simp [hc] at hv'

theorem all_takeWhile {p : Char → Bool} {t : Text} : ∀ c ∈ t.takeWhile p, p c = true :=
  fun _ hc => List.all_eq_true.1 List.all_takeWhile _ hc

theorem head?_dropWhile {p : Char → Bool} {t : Text} : (t.dropWhile p).head?.any p = false := by
  induction t with
  | nil => rfl
  | cons c cs ih =>
    rw [List.dropWhile_cons]
    split
    · exact ih
    · rename_i hc
      simpa using hc

theorem takeWhile_of_run {p : Char → Bool} {u v : Text} (hu : ∀ c ∈ u, p c = true)
    (hv : v.head?.any p = false) : (u ++ v).takeWhile p = u ∧ (u ++ v).dropWhile p = v :=
  run_unique List.takeWhile_append_dropWhile all_takeWhile head?_dropWhile hu hv

/-! ## Trimming -/

theorem takeWhile_append_trimStart (t : Text) : t.takeWhile isBlank ++ trimStart t = t :=
  List.takeWhile_append_dropWhile

theorem trimStart_of_run {ws t : Text} (hws : ∀ c ∈ ws, isBlank c = true)
    (ht : t.head?.any isBlank = false) : trimStart (ws ++ t) = t :=
  (takeWhile_of_run hws ht).2

theorem exists_blanks (t : Text) : ∃ ws, t = ws ++ trimStart t ∧ ∀ c ∈ ws, isBlank c = true :=
  ⟨_, (takeWhile_append_trimStart t).symm, all_takeWhile⟩

theorem exists_append_trimEnd (t : Text) :
    ∃ trail, t = trimEnd t ++ trail ∧ ∀ c ∈ trail, isBlank c = true := by
  refine ⟨(t.reverse.takeWhile isBlank).reverse, ?_, fun c hc => all_takeWhile c (List.mem_reverse.1 hc)⟩
  rw [trimEnd, ← List.reverse_append, List.takeWhile_append_dropWhile, List.reverse_reverse]

/-- Trimming takes white space away and nothing else. -/
theorem exists_around_trim (t : Text) :
    ∃ lead trail, t = lead ++ (trim t ++ trail) ∧ (∀ c ∈ lead, isBlank c = true) ∧
      ∀ c ∈ trail, isBlank c = true := by
  obtain ⟨lead, hlead, hblank⟩ := exists_blanks t
  obtain ⟨trail, htrail, hblank'⟩ := exists_append_trimEnd (trimStart t)
  exact ⟨lead, trail, by rw [trim, ← htrail, ← hlead], hblank, hblank'⟩

theorem trim_sublist (t : Text) : (trim t).Sublist t := by
  have hend : (trim t).Sublist (trimStart t) := by
    have hdrop := (List.dropWhile_sublist isBlank (l := (trimStart t).reverse)).reverse
    rwa [List.reverse_reverse] at hdrop
  exact hend.trans (List.dropWhile_sublist _)

theorem isBlank_head_trim {t more : Text} {c : Char} (h : trim t = c :: more) :
    isBlank c = false := by
  obtain ⟨blanks, hblanks, -⟩ := exists_append_trimEnd (trimStart t)
  have hhead : (trimStart t).head?.any isBlank = false := head?_dropWhile
  rw [hblanks, ← trim, h] at hhead
  exact hhead

theorem isBlank_last_trim {t more : Text} {c : Char} (h : trim t = more ++ [c]) :
    isBlank c = false := by
  have hlast : (trim t).reverse.head?.any isBlank = false := by
    rw [trim, trimEnd, List.reverse_reverse]
    exact head?_dropWhile
  rw [h, List.reverse_append] at hlast
  exact hlast

/-! ## Cutting at a word -/

/-- A text is cut where a word first can start. -/
theorem splitOnce?_word {c : Char} {word a : Text} (h : c ∉ a) (b : Text) :
    splitOnce? (c :: word) (a ++ (c :: word) ++ b) = some (a, b) := by
  induction a with
  | nil =>
    have hfound : (c :: word).isPrefixOf? (c :: (word ++ b)) = some b := isPrefixOf?_eq_some.2 rfl
    rw [List.nil_append, List.cons_append, splitOnce?, hfound]
  | cons d a ih =>
    obtain ⟨hd, ha⟩ : c ≠ d ∧ c ∉ a := by simpa using h
    have hother : (c :: word).isPrefixOf? (d :: (a ++ (c :: word) ++ b)) = none :=
      Option.eq_none_iff_forall_ne_some.2 fun rest hrest =>
        hd (List.cons.inj (isPrefixOf?_eq_some.1 hrest)).1.symm
    rw [List.cons_append, List.cons_append, splitOnce?, hother, ih ha]
    rfl

theorem stripEnd?_eq_some {ending t front : Text} :
    stripEnd? ending t = some front ↔ t = front ++ ending := by
  rw [stripEnd?, Option.map_eq_some_iff]
  simp only [isPrefixOf?_eq_some]
  constructor
  · rintro ⟨back, hback, rfl⟩
    rw [← List.reverse_reverse t, hback, List.reverse_append, List.reverse_reverse]
  · rintro rfl
    exact ⟨front.reverse, List.reverse_append, List.reverse_reverse front⟩

/-! ## White space and names -/

/-- What holds at every occurrence of a character may be tried at every index. -/
theorem forall_split_iff {t : Text} {c : Char} {P : Text → Prop} :
    (∀ before after, t = before ++ c :: after → P before) ↔
      ∀ i < t.length, t[i]? = some c → P (t.take i) := by
  constructor
  · intro h i hi hc
    rw [List.getElem?_eq_some_iff] at hc
    obtain ⟨_, hc⟩ := hc
    exact h _ (t.drop (i + 1)) (by rw [← hc, ← List.drop_eq_getElem_cons, List.take_append_drop])
  · rintro h before after rfl
    simpa using h before.length (by simp) (by simp)

theorem ne_of_isBlank {c d : Char} (hc : isBlank c = true) (hd : isBlank d = false) : c ≠ d := by
  rintro rfl
  rw [hc] at hd
  cases hd

theorem notMem_of_isBlank {ws : Text} (h : ∀ c ∈ ws, isBlank c = true) : '<' ∉ ws :=
  fun hm => ne_of_isBlank (h _ hm) (by decide) rfl

theorem not_isNameChar_of_isBlank {c : Char} (h : isBlank c = true) : isNameChar c = false := by
  have hunder : c ≠ '_' := ne_of_isBlank h (by decide)
  have hdollar : c ≠ '$' := ne_of_isBlank h (by decide)
  simp [isNameChar, Unicode.not_isAlphanumeric_of_isBlank h, hunder, hdollar]

/-- The characters that matter for the cut of a parameter list. -/
def markup : List Char :=
  ['\'', '"', '`', '<', '(', '[', '\x7b', '>', ')', ']', '\x7d', ',', '=']

/-- A character that matters for no cut. -/
structure IsOrdinary (c : Char) : Prop where
  quote : isQuote c = false
  opening : isOpening c = false
  closing : isClosing c = false
  comma : c ≠ ','
  equals : c ≠ '='

theorem isOrdinary_of_notMem {c : Char} (h : c ∉ markup) : IsOrdinary c := by
  simp only [markup, List.mem_cons, List.not_mem_nil, or_false, not_or] at h
  constructor <;> simp [isQuote, isOpening, isClosing, h]

theorem isOrdinary_of_isBlank {c : Char} (h : isBlank c = true) : IsOrdinary c := by
  have hmarkup : markup.all (!isBlank ·) = true := by decide
  refine isOrdinary_of_notMem fun hm => ?_
  have hc := List.all_eq_true.1 hmarkup c hm
  rw [h] at hc
  cases hc

theorem isOrdinary_of_isNameChar {c : Char} (h : isNameChar c = true) : IsOrdinary c := by
  have hmarkup : markup.all (!isNameChar ·) = true := by decide
  refine isOrdinary_of_notMem fun hm => ?_
  have hc := List.all_eq_true.1 hmarkup c hm
  rw [h] at hc
  cases hc

end Text

end Multidialect
