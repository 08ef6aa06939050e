import Multidialect.Proofs.Script.Comparisons

/-! # The neighbours of a comparison

The characters around a comparison tell whether a neighbour binds one of its literals more tightly,
except in a few places (`isUnseenBefore`, `isUnseenAfter`). Everywhere else a neighbour that binds is
seen (`boundBefore_of_binds`, `boundAfter_of_binds`).
-/

namespace Multidialect.Script

open Text
open Comparison (IsDelimiter boundBefore boundAfter)

/-- An operator that binds the literal behind it at least as tightly as `===`. -/
def bindsBefore (e : Element) : Bool :=
  (e.kind == .punctuator &&
    ["+", "-", "*", "/", "%", "**", "++", "--", "<", ">", "<=", ">=", "<<", ">>", ">>>", "==", "!=",
      "===", "!==", "!", "~"].contains (String.ofList e.source)) ||
    (e.kind == .word &&
      ["typeof", "void", "delete", "await", "in", "instanceof"].contains (String.ofList e.source))

/-- An operator that binds the literal in front of it more tightly than `===`. -/
def bindsAfter (e : Element) : Bool :=
  (e.kind == .punctuator &&
    ["+", "-", "*", "/", "%", "**", "++", "--", "<", ">", "<=", ">=", "<<", ">>", ">>>", ".", "?.",
      "["].contains (String.ofList e.source)) ||
    (e.kind == .word && ["in", "instanceof"].contains (String.ofList e.source))

/-- White space of a text. -/
def isGap (e : Element) : Bool := e.kind == .space && e.source.all isBlank

/-- Whether what stands in front of a literal can hide an operator, given the elements there, nearest
first: a line comment and the byte order mark do, `delete` is not looked for, and `>` is taken for the
end of an arrow if `=` stands directly in front of it. -/
def isUnseenBefore (back : List Element) : Bool :=
  match back.dropWhile isGap with
  | [] => false
  | e :: more =>
    e.kind == .lineComment || e.kind == .space || e.source == "delete".toList ||
      (e.source == ['>'] && more.head?.any fun e => e.source.getLast? == some '=')

/-- Whether what stands behind a literal can hide an operator: a comment and the byte order mark
do. -/
def isUnseenAfter (es : List Element) : Bool :=
  match es.dropWhile isGap with
  | [] => false
  | e :: _ => !e.isToken

/-- The characters of elements, nearest element first and last character first. -/
def behind (back : List Element) : Text := back.flatMap fun e => e.source.reverse

theorem behind_eq (back : List Element) : behind back = (text back.reverse).reverse := by
  induction back with
  | nil => rfl
  | cons e back ih =>
    rw [List.reverse_cons, text_append, List.reverse_append, ← ih]
    simp [behind, text]

theorem behind_append (back back' : List Element) :
    behind (back ++ back') = behind back ++ behind back' := List.flatMap_append

theorem isToken_of_isGap {e : Element} (h : isGap e = true) : e.isToken = false := by
  obtain ⟨hkind, -⟩ := Bool.and_eq_true_iff.1 h
  rw [Element.isToken, beq_iff_eq.1 hkind]

theorem find?_dropWhile_isGap (es : List Element) :
    (es.dropWhile isGap).find? Element.isToken = es.find? Element.isToken := by
  induction es with
  | nil => rfl
  | cons e es ih =>
    rw [List.dropWhile_cons]
    split
    · rename_i h
      rw [ih, List.find?_cons, isToken_of_isGap h]
    · rfl

theorem dropWhile_text (es : List Element) :
    (text es).dropWhile isBlank = (text (es.dropWhile isGap)).dropWhile isBlank := by
  induction es with
  | nil => rfl
  | cons e es ih =>
    rw [List.dropWhile_cons]
    split
    · rename_i h
      have hall := List.all_eq_true.1 (Bool.and_eq_true_iff.1 h).2
      rw [text_cons, List.dropWhile_append_of_pos hall, ih]
    · rfl

theorem dropWhile_behind (back : List Element) :
    (behind back).dropWhile isBlank = (behind (back.dropWhile isGap)).dropWhile isBlank := by
  induction back with
  | nil => rfl
  | cons e back ih =>
    rw [List.dropWhile_cons]
    split
    · rename_i h
      have hall := List.all_eq_true.1 (Bool.and_eq_true_iff.1 h).2
      have hcons : behind (e :: back) = e.source.reverse ++ behind back := List.flatMap_cons
      rw [hcons, List.dropWhile_append_of_pos fun c hc => hall c (List.mem_reverse.1 hc), ih]
    · rfl

/-! ## In front of a comparison -/

theorem boundBefore_dropWhile {before before' : Text}
    (h : before.dropWhile isBlank = before'.dropWhile isBlank) :
    boundBefore before = boundBefore before' := by
  simp only [boundBefore, h]

theorem boundBefore_greater {b : Text} (h : b.head? ≠ some '=') : boundBefore ('>' :: b) = true := by
  cases b with
  | nil => rfl
  | cons c b =>
    have hc : ('=' == c) = false := by
      rw [beq_eq_false_iff_ne]
      rintro rfl
      exact h rfl
    have hblank : isBlank '>' = false := by decide
    simp [boundBefore, List.isPrefixOf, hblank, hc]

/-- The keywords that are looked for. -/
def keywordsBefore : List String := ["typeof", "void", "await", "in", "instanceof"]

theorem boundBefore_word {word : String} {b : Text} (hword : word ∈ keywordsBefore)
    (hb : b.head?.any isNameChar = false) : boundBefore (word.toList.reverse ++ b) = true := by
  have hall : ∀ word ∈ keywordsBefore, word.toList.reverse.all isNameChar = true ∧
      word.toList.reverse.head?.all (fun c => !isBlank c && c != '>') = true ∧
      word.toList.reverse ≠ [] := by decide
  obtain ⟨hname, hhead, hne⟩ := hall word hword
  have hrun := (takeWhile_of_run (List.all_eq_true.1 hname) hb).1
  obtain ⟨c, more, hc⟩ := List.exists_cons_of_ne_nil hne
  obtain ⟨hblank, harrow⟩ : isBlank c = false ∧ c ≠ '>' := by simpa [hc] using hhead
  have hdrop : (word.toList.reverse ++ b).dropWhile isBlank = word.toList.reverse ++ b := by
    simp [hc, hblank]
  have hfollows : "=>".toList.reverse.isPrefixOf (word.toList.reverse ++ b) = false := by
    simp [hc, List.isPrefixOf, harrow.symm]
  have hword' : String.ofList ((word.toList.reverse ++ b).takeWhile isNameChar).reverse = word := by
    rw [hrun, List.reverse_reverse, String.ofList_toList]
  have hcontains : ["typeof", "void", "await", "in", "instanceof"].contains word = true :=
    List.contains_iff_mem.2 hword
  unfold boundBefore
  simp only [hdrop, hfollows, hword', hcontains, Bool.or_true, Bool.not_false, Bool.and_true]

/-- An operator in front of a comparison is seen, but for a lone `>`. -/
theorem boundBefore_punctuator {p : Text} (b : Text) (hp : bindsBefore ⟨.punctuator, p⟩ = true)
    (hne : p ≠ ['>']) : boundBefore (p.reverse ++ b) = true := by
  have hmem : p ∈ (["+", "-", "*", "/", "%", "**", "++", "--", "<", ">", "<=", ">=", "<<", ">>",
      ">>>", "==", "!=", "===", "!==", "!", "~"] : List String).map String.toList := by
    simpa [bindsBefore, String.ext_iff] using hp
  simp only [List.map_cons, List.map_nil, List.mem_cons, List.not_mem_nil, or_false] at hmem
  rcases hmem with rfl | rfl | rfl | rfl | rfl | rfl | rfl | rfl | rfl | rfl | rfl | rfl | rfl |
    rfl | rfl | rfl | rfl | rfl | rfl | rfl | rfl <;> first | rfl | exact absurd rfl hne

theorem not_isNameChar_of_isSpace {c : Char} (h : isSpace c = true) : isNameChar c = false := by
  rcases Bool.or_eq_true_iff.1 h with h | h
  · exact not_isNameChar_of_isBlank (Bool.and_eq_true_iff.1 h).1
  · obtain rfl := beq_iff_eq.1 h
    decide +kernel

theorem not_startsName_of_isTerminator {c : Char} (h : isTerminator c = true) :
    startsName c = false := by
  have hblank : isBlank c = true := by
    simp only [isTerminator, Bool.or_eq_true, beq_iff_eq] at h
    rcases h with ((rfl | rfl) | rfl) | rfl <;> decide
  exact (Bool.or_eq_false_iff.1 (not_continuesName_of_blank hblank)).1

theorem not_isNameChar_of_delimiter {q : Char} (h : IsDelimiter q) : isNameChar q = false := by
  rcases h with rfl | rfl <;> decide

/-- What is directly in front of a keyword is no part of a name. -/
theorem not_isNameChar_of_shape {e : Element} {rest : Text} (h : Shape e rest)
    (hrest : rest.head?.any startsName = true) :
    e.source.reverse.head?.any isNameChar = false := by
  cases h with
  | space hc => simpa using not_isNameChar_of_isSpace hc
  | lineComment _ hend =>
    obtain ⟨c, hc, hstart⟩ := (Option.any_eq_true _ _).1 hrest
    rw [not_startsName_of_isTerminator (hend c hc)] at hstart
    cases hstart
  | blockComment =>
    have hslash : isNameChar '/' = false := by decide
    simpa using hslash
  | literal hq _ => simpa using not_isNameChar_of_delimiter hq
  | bare _ _ _ _ hstop =>
    obtain ⟨c, hc, hstart⟩ := (Option.any_eq_true _ _).1 hrest
    rw [hc, Option.any_some, continuesName, hstart, Bool.true_or] at hstop
    cases hstop
  | punctuator hp =>
    have hall : ∀ p ∈ punctuators, p.reverse.head?.any isNameChar = false := by decide
    exact hall _ hp

theorem source_ne_nil {e : Element} {rest : Text} (h : Shape e rest) : e.source ≠ [] := by
  cases h with
  | bare _ hne _ _ _ => exact hne
  | punctuator hp =>
    have hall : ∀ p ∈ punctuators, p ≠ [] := by decide
    exact hall _ hp
  | _ => exact List.cons_ne_nil _ _

theorem behind_cons (e : Element) (back : List Element) :
    behind (e :: back) = e.source.reverse ++ behind back := List.flatMap_cons

theorem head?_behind {e : Element} {rest : Text} {back : List Element} (h : Shape e rest) :
    (behind (e :: back)).head? = e.source.reverse.head? := by
  obtain ⟨c, more, hc⟩ := List.exists_cons_of_ne_nil (mt List.reverse_eq_nil_iff.1 (source_ne_nil h))
  rw [behind_cons, hc]
  rfl

theorem not_isNameChar_behind {t : Text} {back es : List Element} {e : Element}
    (h : Reads t (back.reverse ++ e :: es))
    (hstart : (e.source ++ text es).head?.any startsName = true) :
    (behind back).head?.any isNameChar = false := by
  cases back with
  | nil => rfl
  | cons e' back =>
    rw [List.reverse_cons, List.append_assoc, List.singleton_append] at h
    rw [head?_behind h.shape.2]
    exact not_isNameChar_of_shape h.shape.2 (by rwa [text_cons])

/-- **An operator in front of a comparison is seen**, unless something hides it. -/
theorem boundBefore_of_binds {t : Text} {back es : List Element} (h : Reads t (back.reverse ++ es))
    (hbinds : (back.find? Element.isToken).any bindsBefore = true)
    (hseen : isUnseenBefore back = false) : boundBefore (behind back) = true := by
  rw [boundBefore_dropWhile (dropWhile_behind back)]
  rw [← find?_dropWhile_isGap] at hbinds
  rw [← List.takeWhile_append_dropWhile (p := isGap) (l := back), List.reverse_append,
    List.append_assoc] at h
  rw [isUnseenBefore] at hseen
  cases hnear : back.dropWhile isGap with
  | nil =>
    rw [hnear] at hbinds
    cases hbinds
  | cons e more =>
    rw [hnear] at hbinds hseen h
    rw [List.reverse_cons, List.append_assoc, List.singleton_append] at h
    simp only [Bool.or_eq_false_iff] at hseen
    obtain ⟨⟨⟨hline, hspace⟩, hdelete⟩, harrow⟩ := hseen
    have hshape := h.shape.2
    rw [behind_cons]
    cases hshape with
    | space _ => cases hspace
    | lineComment _ _ => cases hline
    | blockComment =>
      rw [List.reverse_cons, List.reverse_cons, List.reverse_append]
      rfl
    | literal _ _ => cases hbinds
    | @bare kind u _ hkind hne _ _ _ =>
      rcases hkind with rfl | rfl
      · have hp : bindsBefore ⟨.word, u⟩ = true := hbinds
        have hword : String.ofList u ∈ keywordsBefore := by
          have hne' : String.ofList u ≠ "delete" := by
            rintro heq
            simp [← heq] at hdelete
          simpa [bindsBefore, keywordsBefore, hne'] using hp
        have hstart : u.head?.any startsName = true := by
          have hall : ∀ word ∈ keywordsBefore, word.toList.head?.any startsName = true := by
            decide
          simpa using hall _ hword
        rw [← List.head?_append_of_ne_nil u hne] at hstart
        have hbound := boundBefore_word hword (not_isNameChar_behind h hstart)
        rwa [String.toList_ofList] at hbound
      · cases hbinds
    | @punctuator p _ hp =>
      have hp' : bindsBefore ⟨.punctuator, p⟩ = true := hbinds
      by_cases hgreater : p = ['>']
      · subst hgreater
        refine boundBefore_greater fun heq => ?_
        cases more with
        | nil => cases heq
        | cons e' more =>
          rw [List.reverse_cons, List.append_assoc, List.singleton_append] at h
          have hlast : (behind (e' :: more)).head? = some '=' := heq
          rw [head?_behind h.shape.2, List.head?_reverse] at hlast
          rw [List.head?_cons, Option.any_some, hlast] at harrow
          cases harrow
      · exact boundBefore_punctuator _ hp' hgreater

/-! ## Behind a comparison -/

theorem boundAfter_dropWhile {after after' : Text}
    (h : after.dropWhile isBlank = after'.dropWhile isBlank) :
    boundAfter after = boundAfter after' := by
  simp only [boundAfter, h]

theorem boundAfter_word {word : String} {rest : Text} (hword : word ∈ ["in", "instanceof"])
    (hrest : rest.head?.any isNameChar = false) : boundAfter (word.toList ++ rest) = true := by
  have hall : ∀ word ∈ ["in", "instanceof"], word.toList.all isNameChar = true ∧
      word.toList.head?.all (fun c => !isBlank c && c != '/') = true ∧ word.toList ≠ [] := by
    decide
  obtain ⟨hname, hhead, hne⟩ := hall word hword
  have hrun := (takeWhile_of_run (List.all_eq_true.1 hname) hrest).1
  obtain ⟨c, more, hc⟩ := List.exists_cons_of_ne_nil hne
  obtain ⟨hblank, hslash⟩ : isBlank c = false ∧ c ≠ '/' := by simpa [hc] using hhead
  have hdrop : (word.toList ++ rest).dropWhile isBlank = word.toList ++ rest := by simp [hc, hblank]
  have hline : "//".toList.isPrefixOf (word.toList ++ rest) = false := by
    simp [hc, List.isPrefixOf, hslash.symm]
  have hblock : "/*".toList.isPrefixOf (word.toList ++ rest) = false := by
    simp [hc, List.isPrefixOf, hslash.symm]
  have hword' : String.ofList ((word.toList ++ rest).takeWhile isNameChar) = word := by
    rw [hrun, String.ofList_toList]
  have hcontains : ["in", "instanceof"].contains word = true := List.contains_iff_mem.2 hword
  unfold boundAfter
  simp only [hdrop, hline, hblock, hword', hcontains, Bool.or_true, Bool.not_false, Bool.and_true]

/-- An operator behind a comparison is seen, unless a comment starts with it. -/
theorem boundAfter_punctuator {p rest : Text} (hp : bindsAfter ⟨.punctuator, p⟩ = true)
    (hrest : p = ['/'] → rest.head?.all (fun c => c != '/' && c != '*') = true) :
    boundAfter (p ++ rest) = true := by
  have hmem : p ∈ (["+", "-", "*", "/", "%", "**", "++", "--", "<", ">", "<=", ">=", "<<", ">>",
      ">>>", ".", "?.", "["] : List String).map String.toList := by
    simpa [bindsAfter, String.ext_iff] using hp
  by_cases hslash : p = ['/']
  · subst hslash
    cases rest with
    | nil => rfl
    | cons c rest =>
      obtain ⟨hline, hblock⟩ : c ≠ '/' ∧ c ≠ '*' := by simpa using hrest rfl
      have hblank : isBlank '/' = false := by decide
      simp [boundAfter, List.isPrefixOf, hblank, hline.symm, hblock.symm]
  · simp only [List.map_cons, List.map_nil, List.mem_cons, List.not_mem_nil, or_false] at hmem
    rcases hmem with rfl | rfl | rfl | rfl | rfl | rfl | rfl | rfl | rfl | rfl | rfl | rfl | rfl |
      rfl | rfl | rfl | rfl | rfl <;> first | rfl | exact absurd rfl hslash

/-- A name that starts an element is one that goes on with a name. -/
theorem continuesName_of_shape {e : Element} {rest : Text} (h : Shape e rest) {c : Char}
    (hc : e.source.head? = some c) (hname : isNameChar c = true) : continuesName c = true := by
  have hslash : isNameChar '/' = false := by decide
  cases h with
  | space hspace =>
    obtain rfl := Option.some.inj hc
    rw [not_isNameChar_of_isSpace hspace] at hname
    cases hname
  | lineComment _ _ =>
    obtain rfl := Option.some.inj hc
    rw [hslash] at hname
    cases hname
  | blockComment =>
    obtain rfl := Option.some.inj hc
    rw [hslash] at hname
    cases hname
  | literal hq _ =>
    obtain rfl := Option.some.inj hc
    rw [not_isNameChar_of_delimiter hq] at hname
    cases hname
  | bare _ _ hbare _ _ =>
    have hmarks : ['#', '\\', '\x7b', '\x7d', '.', '+', '-'].all (!isNameChar ·) = true := by
      decide
    refine (Bool.or_eq_true_iff.1 (hbare c (List.mem_of_head? hc))).resolve_right fun hm => ?_
    have hmark := List.all_eq_true.1 hmarks c (List.contains_iff_mem.1 hm)
    rw [hname] at hmark
    cases hmark
  | punctuator hp =>
    have hall : ∀ p ∈ punctuators, p.head?.any isNameChar = false := by decide
    have hhead := hall _ hp
    rw [hc, Option.any_some, hname] at hhead
    cases hhead

theorem head?_text {e : Element} {rest : Text} {es : List Element} (h : Shape e rest) :
    (text (e :: es)).head? = e.source.head? := by
  obtain ⟨c, more, hc⟩ := List.exists_cons_of_ne_nil (source_ne_nil h)
  rw [text_cons, hc]
  rfl

theorem not_isNameChar_text {t : Text} {es es' : List Element} {e : Element}
    (h : Reads t (es ++ e :: es')) (hstop : (text es').head?.any continuesName = false) :
    (text es').head?.any isNameChar = false := by
  refine Bool.eq_false_iff.2 fun hany => ?_
  obtain ⟨c, hc, hname⟩ := (Option.any_eq_true _ _).1 hany
  cases es' with
  | nil => cases hc
  | cons e' es' =>
    have hshape : Shape e' (text es') := by
      rw [← List.singleton_append, ← List.append_assoc] at h
      exact h.shape.2
    have hcontinues := continuesName_of_shape hshape (head?_text hshape ▸ hc) hname
    rw [hc, Option.any_some, hcontinues] at hstop
    cases hstop

/-- **An operator behind a comparison is seen**, unless something hides it. -/
theorem boundAfter_of_binds {t : Text} {es : List Element} (h : Reads t es)
    (hbinds : (es.find? Element.isToken).any bindsAfter = true)
    (hseen : isUnseenAfter es = false) : boundAfter t = true := by
  rw [h.eq_text, boundAfter_dropWhile (dropWhile_text es)]
  rw [← find?_dropWhile_isGap] at hbinds
  rw [← List.takeWhile_append_dropWhile (p := isGap) (l := es)] at h
  rw [isUnseenAfter] at hseen
  cases hnear : es.dropWhile isGap with
  | nil =>
    rw [hnear] at hbinds
    cases hbinds
  | cons e more =>
    rw [hnear] at hbinds hseen h
    obtain ⟨hfront, hshape⟩ := h.shape
    rw [text_cons]
    cases hshape with
    | space _ => cases hseen
    | lineComment _ _ => cases hseen
    | blockComment => cases hseen
    | literal _ _ => cases hbinds
    | @bare kind u _ hkind hne _ _ hstop =>
      rcases hkind with rfl | rfl
      · have hp : bindsAfter ⟨.word, u⟩ = true := hbinds
        have hword : String.ofList u ∈ ["in", "instanceof"] := by simpa [bindsAfter] using hp
        have hbound := boundAfter_word hword (not_isNameChar_text h hstop)
        rwa [String.toList_ofList] at hbound
      · cases hbinds
    | @punctuator p _ hp =>
      refine boundAfter_punctuator hbinds ?_
      rintro rfl
      -- Here a comment would start.
      cases hrest : text more with
      | nil => rfl
      | cons c rest =>
        rw [hrest] at hfront
        have hline : c ≠ '/' := by
          rintro rfl
          cases hfront
        have hblock : c ≠ '*' := by
          rintro rfl
          obtain ⟨_, _, heq⟩ := Option.map_eq_some_iff.1 hfront
          cases heq
        simp [hline, hblock]

end Multidialect.Script
