import Multidialect.Proofs.Text.Splitting

/-! # Strings in a list

A string literal stands between two quotes of one kind. A backslash in it takes the next character
with it, whatever that is (`IsQuoted`), so a quote behind a backslash closes the literal if the
backslash itself was taken. Where a list is cut only the one character in front of a quote is looked
at. That is enough for every literal but those that end with an escaped backslash: a list of which
each front is cut as it is written is one without such literals (`cutAsWritten_iff`).
-/

namespace Multidialect.Text

open Nesting

variable {s : Nesting} {q c : Char}

/-! ## Lists and their literals -/

/-- What may stand between two quotes `q`: a quote only behind a backslash, and behind a backslash
any character. -/
inductive IsQuoted (q : Char) : Text → Prop
  | nil : IsQuoted q []
  | char {c : Char} {cs : Text} : c ≠ q → c ≠ '\\' → IsQuoted q cs → IsQuoted q (c :: cs)
  | escape (c : Char) {cs : Text} : IsQuoted q cs → IsQuoted q ('\\' :: c :: cs)

/-- A string literal. -/
structure Quotation where
  quote : Char
  body : Text
  isQuote : isQuote quote = true
  isQuoted : IsQuoted quote body

/-- A literal as it is written. -/
def Quotation.text (l : Quotation) : Text := l.quote :: (l.body ++ [l.quote])

/-- A part of a list: a literal, or a character that stands outside of literals. -/
inductive ListPart where
  | literal (l : Quotation)
  | char (c : Char) (noQuote : isQuote c = false) (noBackslash : c ≠ '\\')

namespace ListPart

/-- A part as it is written. -/
def text : ListPart → Text
  | .literal l => l.text
  | .char c _ _ => [c]

/-- Whether a part is a comma outside of literals. -/
def isComma : ListPart → Bool
  | .literal _ => false
  | .char c _ _ => c == ','

/-- Parts as they are written one after another. -/
def write (parts : List ListPart) : Text := parts.flatMap text

end ListPart

open ListPart (write)

/-- The number of brackets that are open, and whether an equals sign stands directly in front. -/
structure Brackets where
  depth : Nat
  equals : Bool

namespace Brackets

/-- In front of a list. -/
def none : Brackets := ⟨0, false⟩

/-- The brackets behind one more part. A literal opens and closes none, and neither does the `>` of an
arrow. -/
def next (b : Brackets) : ListPart → Brackets
  | .literal _ => ⟨b.depth, false⟩
  | .char c _ _ =>
    { depth :=
        if isOpening c then b.depth + 1
        else if isClosing c && !(c == '>' && b.equals) then b.depth - 1
        else b.depth
      equals := c == '=' }

/-- The brackets behind a list. -/
def behind (parts : List ListPart) : Brackets := parts.foldl next none

end Brackets

/-- The entries of a list that goes on with brackets `b`. -/
def entriesOf (b : Brackets) : List ListPart → List (List ListPart)
  | [] => [[]]
  | p :: ps =>
    if p.isComma && b.depth == 0 then [] :: entriesOf (b.next p) ps
    else (entriesOf (b.next p) ps).modifyHead (p :: ·)

theorem entriesOf_ne_nil (b : Brackets) (parts : List ListPart) : entriesOf b parts ≠ [] := by
  induction parts generalizing b with
  | nil => simp [entriesOf]
  | cons p ps ih =>
    rw [entriesOf]
    split
    · simp
    · simpa [List.modifyHead_eq_nil_iff] using ih _

/-- What no comma cuts belongs to the first entry. -/
theorem splitTopLevelFrom_append_of_uncut {x : Text} (h : Uncut s x) (t : Text) :
    splitTopLevelFrom ',' s (x ++ t) = (splitTopLevelFrom ',' (s.run x) t).modifyHead (x ++ ·) := by
  induction x generalizing s with
  | nil =>
    obtain ⟨entry, rest, he⟩ := List.exists_cons_of_ne_nil (splitTopLevelFrom_ne_nil ',' s t)
    simp [run, he]
  | cons c x ih =>
    obtain ⟨hc, hx⟩ := uncut_cons.1 h
    rw [List.cons_append, splitTopLevelFrom, hc, ih hx, run, run, List.foldl_cons]
    obtain ⟨entry, rest, he⟩ :=
      List.exists_cons_of_ne_nil (splitTopLevelFrom_ne_nil ',' (x.foldl next (s.next c)) t)
    rw [he]
    rfl

/-! ## Inside a literal -/

theorem ne_backslash_of_isQuote (h : isQuote q = true) : q ≠ '\\' := by
  rintro rfl
  exact absurd h (by decide)

namespace Nesting

theorem next_quote (hs : s.quote = none) (hq : isQuote q = true) :
    s.next q = ⟨s.depth, some q, q⟩ := by
  simp [next, hs, hq]

theorem next_quoted (hs : s.quote = some q) (c : Char) :
    s.next c = ⟨s.depth, if c = q ∧ s.prev ≠ '\\' then none else some q, c⟩ := by
  simp [next, hs]

theorem eq_of_quote (hs : s.quote = some q) : s = ⟨s.depth, some q, s.prev⟩ := by rw [← hs]

/-- Inside of its quotes a literal stays open, whatever of it has been read. -/
theorem run_quoted {body inside : Text} (hq : isQuote q = true) (hbody : IsQuoted q body)
    (hinside : inside <+: body) (hs : s.quote = some q) :
    s.run inside = ⟨s.depth, some q, inside.getLast?.getD s.prev⟩ := by
  induction hbody generalizing s inside with
  | nil =>
    obtain rfl := List.prefix_nil.1 hinside
    exact eq_of_quote hs
  | @char c cs hc _ _ ih =>
    rcases List.prefix_cons_iff.1 hinside with rfl | ⟨more, rfl, hmore⟩
    · exact eq_of_quote hs
    · have hnext : s.next c = ⟨s.depth, some q, c⟩ := by simp [next_quoted hs, hc]
      rw [run, List.foldl_cons, hnext, ← run, ih hmore rfl, List.getLast?_cons]
      rfl
  | @escape c cs _ ih =>
    have hback : s.next '\\' = ⟨s.depth, some q, '\\'⟩ := by
      simp [next_quoted hs, (ne_backslash_of_isQuote hq).symm]
    -- The backslash keeps the next character from closing the literal.
    have htaken : (⟨s.depth, some q, '\\'⟩ : Nesting).next c = ⟨s.depth, some q, c⟩ := by
      simp [next]
    rcases List.prefix_cons_iff.1 hinside with rfl | ⟨more, rfl, hmore⟩
    · exact eq_of_quote hs
    · rcases List.prefix_cons_iff.1 hmore with rfl | ⟨rest, rfl, hrest⟩
      · rw [run, List.foldl_cons, hback]
        rfl
      · rw [run, List.foldl_cons, List.foldl_cons, hback, htaken, ← run, ih hrest rfl,
          List.getLast?_cons, List.getLast?_cons]
        rfl

end Nesting

namespace Quotation

variable (l : Quotation)

/-- A literal ends where its last quote does if no backslash stands in front of this quote. -/
theorem run_text_eq (hs : s.quote = none) :
    s.run l.text =
      ⟨s.depth, if l.body.getLast? = some '\\' then some l.quote else none, l.quote⟩ := by
  have hne := ne_backslash_of_isQuote l.isQuote
  have hlast : l.body.getLast?.getD l.quote = '\\' ↔ l.body.getLast? = some '\\' := by
    cases l.body.getLast? with
    | none => simp [hne]
    | some c => simp
  have hopen : s.run (l.quote :: l.body) = ⟨s.depth, some l.quote, l.body.getLast?.getD l.quote⟩ := by
    rw [run, List.foldl_cons, next_quote hs l.isQuote, ← run]
    exact run_quoted l.isQuote l.isQuoted (List.prefix_refl _) rfl
  have hwritten : l.text = (l.quote :: l.body) ++ [l.quote] := rfl
  rw [hwritten, run_append, hopen, run, List.foldl_cons, List.foldl_nil, next_quoted rfl]
  by_cases hback : l.body.getLast? = some '\\'
  · simp [hback]
  · simp [hback, hlast]

/-- No comma in a literal cuts a list. -/
theorem uncut_text (hs : s.quote = none) : Uncut s l.text := by
  have hquote : l.quote ≠ ',' := by
    intro he
    have h := l.isQuote
    rw [he] at h
    exact absurd h (by decide)
  have hfirst : s.cutsAt ',' l.quote = false :=
    Bool.not_eq_true _ ▸ fun hcut => hquote (eq_of_cutsAt hcut)
  refine uncut_cons.2 ⟨hfirst, uncut_append (fun front back he ho => ?_) (uncut_cons.2 ⟨?_, uncut_nil⟩)⟩
  · rw [next_quote hs l.isQuote, run_quoted l.isQuote l.isQuoted ⟨_, he.symm⟩ rfl] at ho
    cases ho.quote
  · exact Bool.not_eq_true _ ▸ fun hcut => hquote (eq_of_cutsAt hcut)

end Quotation

/-! ## Outside of literals -/

/-- What is read of a list and what is written in it agree: no literal is open, and the brackets are
those of the list. -/
structure Agrees (s : Nesting) (b : Brackets) : Prop where
  quote : s.quote = none
  depth : s.depth = b.depth
  equals : (s.prev == '=') = b.equals

namespace Agrees

variable {b : Brackets} {parts : List ListPart}

theorem start : Agrees start .none := ⟨rfl, rfl, rfl⟩

theorem next_char (h : Agrees s b) (hc : isQuote c = false) (hback : c ≠ '\\') :
    Agrees (s.next c) (b.next (.char c hc hback)) := by
  have hnext : s.next c =
      ⟨(b.next (.char c hc hback)).depth, none, c⟩ := by
    simp only [next, h.quote, hc, h.equals, h.depth, Brackets.next]
    by_cases hopening : isOpening c = true
    · simp [hopening]
    · by_cases harrow : (c == '>' && b.equals) = true
      · simp [hopening, harrow]
      · by_cases hclosing : isClosing c = true <;> simp [hopening, harrow, hclosing]
  rw [hnext]
  exact ⟨rfl, rfl, rfl⟩

theorem run_literal (h : Agrees s b) {l : Quotation} (hl : l.body.getLast? ≠ some '\\') :
    Agrees (s.run l.text) (b.next (.literal l)) := by
  rw [l.run_text_eq h.quote, if_neg hl]
  refine ⟨rfl, h.depth, beq_eq_false_iff_ne.2 fun he => ?_⟩
  have hquote : isQuote l.quote = true := l.isQuote
  rw [show l.quote = '=' from he] at hquote
  exact absurd hquote (by decide)

theorem run_part (h : Agrees s b) {p : ListPart}
    (hp : ∀ l, p = .literal l → l.body.getLast? ≠ some '\\') :
    Agrees (s.run p.text) (b.next p) := by
  cases p with
  | literal l => exact h.run_literal (hp l rfl)
  | char c hc hback => exact h.next_char hc hback

/-- **Where literals are closed as they end** the reading agrees with the list. -/
theorem run_write (h : Agrees s b)
    (hparts : ∀ l, .literal l ∈ parts → l.body.getLast? ≠ some '\\') :
    Agrees (s.run (write parts)) (parts.foldl Brackets.next b) := by
  induction parts generalizing s b with
  | nil => exact h
  | cons p ps ih =>
    rw [write, List.flatMap_cons, run_append, List.foldl_cons]
    exact ih (h.run_part fun l hl => hparts l (hl ▸ .head _)) fun l hl => hparts l (.tail _ hl)

theorem cutsAt_eq (h : Agrees s b) (c : Char) : s.cutsAt ',' c = (c == ',' && b.depth == 0) := by
  rw [Bool.eq_iff_iff, cutsAt_iff, Bool.and_eq_true, beq_iff_eq, beq_iff_eq, ← h.depth]
  exact and_congr_right fun _ => ⟨fun ho => ho.depth, fun hd => ⟨h.quote, hd⟩⟩

/-- **Where literals are closed as they end** a list is cut into its entries. -/
theorem splitTopLevelFrom_write (h : Agrees s b)
    (hparts : ∀ l, .literal l ∈ parts → l.body.getLast? ≠ some '\\') :
    splitTopLevelFrom ',' s (write parts) = (entriesOf b parts).map write := by
  induction parts generalizing s b with
  | nil => rfl
  | cons p ps ih =>
    have hrest := ih (h.run_part fun l hl => hparts l (hl ▸ .head _)) fun l hl => hparts l (.tail _ hl)
    obtain ⟨entry, rest, he⟩ := List.exists_cons_of_ne_nil (entriesOf_ne_nil (b.next p) ps)
    rw [he] at hrest
    rw [write, List.flatMap_cons, ← write, entriesOf, he]
    cases p with
    | literal l =>
      rw [ListPart.text, splitTopLevelFrom_append_of_uncut (l.uncut_text h.quote)]
      rw [ListPart.text] at hrest
      rw [hrest]
      rfl
    | char c hc hback =>
      have hrest' : splitTopLevelFrom ',' (s.next c) (write ps) = (entry :: rest).map write := hrest
      rw [ListPart.text, List.singleton_append, splitTopLevelFrom, h.cutsAt_eq, hrest',
        ListPart.isComma]
      split <;> rfl

end Agrees

/-! ## Lists that are cut as they are written -/

/-- A list is cut as it is written: behind it no literal is open and its brackets are, its entries are
parted by the commas outside of literals and brackets, and a literal at its end is open from its first
quote to its last one. -/
structure CutAsWritten (parts : List ListPart) : Prop where
  closed : (start.run (write parts)).quote = none
  depth : (start.run (write parts)).depth = (Brackets.behind parts).depth
  entries : splitTopLevel (write parts) ',' = (entriesOf .none parts).map write
  within : ∀ front l, parts = front ++ [.literal l] → ∀ inside, inside <+: l.body →
    (start.run (write front ++ l.quote :: inside)).quote = some l.quote

/-- **Literals are read as they are written** exactly if none of them ends with an escaped backslash:
then, and only then, a list and each of its fronts are cut at the commas outside of literals and brackets,
whatever brackets and commas the literals hold, and precisely the literals are taken for quoted. -/
theorem cutAsWritten_iff (parts : List ListPart) :
    (∀ l, .literal l ∈ parts → l.body.getLast? ≠ some '\\') ↔
      ∀ front, front <+: parts → CutAsWritten front := by
  constructor
  · rintro hparts front ⟨back, rfl⟩
    have hfront : ∀ l, .literal l ∈ front → l.body.getLast? ≠ some '\\' := fun l hl =>
      hparts l (List.mem_append_left _ hl)
    have hagrees := Agrees.start.run_write hfront
    refine ⟨hagrees.quote, hagrees.depth, Agrees.start.splitTopLevelFrom_write hfront, ?_⟩
    rintro before l rfl inside hinside
    have hbefore := Agrees.start.run_write fun l hl => hfront l (List.mem_append_left _ hl)
    rw [run_append, run, List.foldl_cons, next_quote hbefore.quote l.isQuote, ← run,
      run_quoted l.isQuote l.isQuoted hinside rfl]
  · intro hfronts l hl hback
    obtain ⟨front, back, rfl⟩ := List.append_of_mem hl
    have hbefore := (hfronts front (List.prefix_append _ _)).closed
    have hbehind := (hfronts (front ++ [.literal l]) ⟨back, by simp⟩).closed
    have hwritten : write (front ++ [.literal l]) = write front ++ l.text := by
      simp [write, ListPart.text]
    rw [hwritten, run_append, l.run_text_eq hbefore, if_pos hback] at hbehind
    cases hbehind

/-- An escaped quote closes no literal, and brackets and commas in it are text. -/
example : splitTopLevel "T extends 'it\\'s, <', U".toList ',' =
    ["T extends 'it\\'s, <'".toList, " U".toList] := by decide +kernel

/-- An escaped backslash is taken for the start of an escape, so its literal is left open and the comma
behind it cuts nothing. -/
theorem cut_misses_escaped_backslash :
    ∃ parts : List ListPart, write parts = "'\\\\', U".toList ∧
      (entriesOf .none parts).map write = ["'\\\\'".toList, " U".toList] ∧
      splitTopLevel "'\\\\', U".toList ',' = ["'\\\\', U".toList] := by
  refine ⟨[.literal ⟨'\'', ['\\', '\\'], rfl, .escape '\\' .nil⟩, .char ',' rfl (by decide),
    .char ' ' rfl (by decide), .char 'U' rfl (by decide)], ?_⟩
  decide +kernel

end Multidialect.Text
