import Multidialect.Proofs.Script.Elements

/-! # Comparisons as elements

A comparison that is found where a literal starts is a literal, an operator and a literal with white
space between them (`Reads.exists_of_written`), however the text goes on. So the only way to find
something else is to start elsewhere.
-/

namespace Multidialect.Script

open Text
open Comparison (IsDelimiter IsBody Written sign)

/-! ## What the first character tells -/

theorem front?_cons {c : Char} (hc : c ≠ '/') (rest : Text) : front? (c :: rest) =
    if isSpace c then some (⟨.space, [c]⟩, rest)
    else if IsDelimiter c then
      (quoted? c rest).map fun (body, rest) => (⟨.literal, c :: (body ++ [c])⟩, rest)
    else
      (((number? (c :: rest)).map (Element.mk .number)).or
        (((word? (c :: rest)).map (Element.mk .word)).or
          ((punctuator? (c :: rest)).map (Element.mk .punctuator)))).map fun e =>
        (e, (c :: rest).drop e.source.length) := by
  rw [front?]
  · exact fun _ heq _ => hc heq
  · exact fun _ heq _ => hc heq

theorem front?_quote {q : Char} (hq : IsDelimiter q) (rest : Text) : front? (q :: rest) =
    (quoted? q rest).map fun (body, rest) => (⟨.literal, q :: (body ++ [q])⟩, rest) := by
  have hspace : isSpace q = false := by rcases hq with rfl | rfl <;> decide
  have hslash : q ≠ '/' := by rcases hq with rfl | rfl <;> decide
  rw [front?_cons hslash, hspace, if_neg Bool.false_ne_true, if_pos hq]

theorem front?_sign (negated : Bool) (rest : Text) :
    front? (sign negated ++ rest) = some (⟨.punctuator, sign negated⟩, rest) := by
  cases negated <;> rfl

theorem front?_nextLine (rest : Text) : front? ('\u0085' :: rest) = none := rfl

/-! ## Literals -/

theorem quoted?_quote {q : Char} (hq : q ≠ '\\') (rest : Text) :
    quoted? q (q :: rest) = some ([], rest) := by
  rw [quoted?, if_pos rfl]
  · exact fun _ heq _ => hq heq
  · exact fun _ _ heq _ => hq heq

theorem quoted?_char {q c : Char} (hq : c ≠ q) (hb : c ≠ '\\') (hn : c ≠ '\n') (hr : c ≠ '\r')
    (rest : Text) : quoted? q (c :: rest) =
      (quoted? q rest).map fun (body, rest) => (c :: body, rest) := by
  rw [quoted?, if_neg hq, if_neg (by simp [hb, hn, hr])]
  · exact fun _ heq _ => hb heq
  · exact fun _ _ heq _ => hb heq

theorem quoted?_escape {q c : Char} {rest : Text} (h : c = '\r' → rest.head? ≠ some '\n') :
    quoted? q ('\\' :: c :: rest) =
      (quoted? q rest).map fun (body, rest) => ('\\' :: c :: body, rest) := by
  rw [quoted?]
  rintro cs rfl rfl
  exact h rfl rfl

/-- What stands between two quotes in a comparison is the body of a literal, if there is a literal. -/
theorem quoted?_of_isBody {q : Char} {l more body rest : Text} (hq : IsDelimiter q)
    (hl : IsBody q l) (h : quoted? q (l ++ q :: more) = some (body, rest)) :
    body = l ∧ rest = more := by
  induction hl generalizing body with
  | nil =>
    rw [List.nil_append, quoted?_quote hq.ne_backslash] at h
    obtain ⟨rfl, rfl⟩ := Prod.mk.inj (Option.some.inj h)
    exact ⟨rfl, rfl⟩
  | @char c cs hc hn hb _ ih =>
    rw [List.cons_append] at h
    by_cases hr : c = '\r'
    · rw [hr, quoted?, if_neg (hr ▸ hc), if_pos (by simp)] at h
      · cases h
      · exact fun _ heq _ => absurd heq (by decide)
      · exact fun _ _ heq _ => absurd heq (by decide)
    · rw [quoted?_char hc hb hn hr] at h
      obtain ⟨⟨body', rest'⟩, hbody, h⟩ := Option.map_eq_some_iff.1 h
      obtain ⟨rfl, rfl⟩ := Prod.mk.inj h
      obtain ⟨rfl, rfl⟩ := ih hbody
      exact ⟨rfl, rfl⟩
  | @escape c cs hn hcs ih =>
    have hfeed : (cs ++ q :: more).head? ≠ some '\n' := by
      cases hcs with
      | nil =>
        rcases hq with rfl | rfl <;> simp
      | char _ hn' _ _ => simpa using hn'
      | escape _ _ => simp
    rw [List.cons_append, List.cons_append, quoted?_escape fun _ => hfeed] at h
    obtain ⟨⟨body', rest'⟩, hbody, h⟩ := Option.map_eq_some_iff.1 h
    obtain ⟨rfl, rfl⟩ := Prod.mk.inj h
    obtain ⟨rfl, rfl⟩ := ih hbody
    exact ⟨rfl, rfl⟩

/-! ## Comparisons -/

/-- White space as elements. -/
def spaces (ws : Text) : List Element := ws.map fun c => ⟨.space, [c]⟩

/-- A literal with its quotes. -/
def literal (q : Char) (body : Text) : Element := ⟨.literal, q :: (body ++ [q])⟩

/-- The elements of a comparison. -/
def elementsOf (w : Written) : List Element :=
  literal w.quote w.left :: (spaces w.space ++ ⟨.punctuator, sign w.negated⟩ ::
    (spaces w.space' ++ [literal w.quote' w.right]))

theorem text_spaces (ws : Text) : text (spaces ws) = ws := by
  induction ws with
  | nil => rfl
  | cons c ws ih => simpa [text, spaces] using ih

theorem text_append (es es' : List Element) : text (es ++ es') = text es ++ text es' :=
  List.flatMap_append

theorem text_cons (e : Element) (es : List Element) : text (e :: es) = e.source ++ text es :=
  List.flatMap_cons

theorem text_nil : text [] = [] := rfl

theorem text_elementsOf (w : Written) : text (elementsOf w) = w.text := by
  simp [elementsOf, text_cons, text_append, text_spaces, text_nil, literal, Written.text]

namespace Reads

theorem eq_text {t : Text} {es : List Element} (h : Reads t es) : t = text es := by
  induction h with
  | nil => rfl
  | cons hfront _ ih => rw [(shape_of_front? hfront).1, ih, text_cons]

theorem of_append {t : Text} {es es' : List Element} (h : Reads t (es ++ es')) :
    t = text es ++ text es' ∧ Reads (text es') es' := by
  induction es generalizing t with
  | nil => exact ⟨h.eq_text, h.eq_text ▸ h⟩
  | cons e es ih =>
    cases h with
    | cons hfront hrest =>
      obtain ⟨rfl, hes'⟩ := ih hrest
      exact ⟨by rw [(shape_of_front? hfront).1, text_cons, List.append_assoc], hes'⟩

theorem of_cons {t : Text} {e : Element} {es : List Element} (h : Reads t (e :: es)) :
    t = e.source ++ text es ∧ Reads (text es) es ∧ Shape e (text es) := by
  cases h with
  | cons hfront hrest =>
    obtain ⟨ht, hshape⟩ := shape_of_front? hfront
    rw [← hrest.eq_text]
    exact ⟨ht, hrest, hshape⟩

/-- An element and what follows it. -/
theorem shape {t : Text} {es es' : List Element} {e : Element} (h : Reads t (es ++ e :: es')) :
    front? (e.source ++ text es') = some (e, text es') ∧ Shape e (text es') := by
  have hfrom := h.of_append.2
  generalize hs : text (e :: es') = s at hfrom
  cases hfrom with
  | cons hfront hrest =>
    rw [← hs, hrest.eq_text, text_cons] at hfront
    exact ⟨hfront, (shape_of_front? hfront).2⟩

/-- Where an element is known to come first, it comes first. -/
theorem tail_of_front {t rest : Text} {e : Element} {es : List Element} (h : Reads t es)
    (hfront : front? t = some (e, rest)) : ∃ es', es = e :: es' ∧ Reads rest es' := by
  cases h with
  | nil => cases hfront
  | cons hfront' hrest =>
    rw [hfront] at hfront'
    obtain ⟨rfl, rfl⟩ := Prod.mk.inj (Option.some.inj hfront')
    exact ⟨_, rfl, hrest⟩

theorem space {c : Char} {t : Text} {es : List Element} (hc : isBlank c = true)
    (h : Reads (c :: t) es) : ∃ es', es = ⟨.space, [c]⟩ :: es' ∧ Reads t es' := by
  by_cases hnext : c = '\u0085'
  · subst hnext
    cases h with
    | cons hfront _ =>
      rw [front?_nextLine] at hfront
      cases hfront
  · have hslash : c ≠ '/' := ne_of_isBlank hc (by decide)
    have hspace : isSpace c = true := by simp [isSpace, hc, hnext]
    exact h.tail_of_front (by rw [front?_cons hslash, if_pos hspace])

theorem exists_spaces {ws t : Text} {es : List Element} (hws : ∀ c ∈ ws, isBlank c = true)
    (h : Reads (ws ++ t) es) : ∃ es', es = spaces ws ++ es' ∧ Reads t es' := by
  induction ws generalizing es with
  | nil => exact ⟨es, rfl, h⟩
  | cons c ws ih =>
    obtain ⟨es', rfl, h'⟩ := h.space (hws c (.head _))
    obtain ⟨es'', rfl, h''⟩ := ih (fun d hd => hws d (.tail _ hd)) h'
    exact ⟨es'', rfl, h''⟩

theorem exists_literal {q : Char} {l t : Text} {es : List Element} (hq : IsDelimiter q)
    (hl : IsBody q l) (h : Reads (q :: (l ++ q :: t)) es) :
    ∃ es', es = literal q l :: es' ∧ Reads t es' := by
  cases h with
  | cons hfront hrest =>
    rw [front?_quote hq] at hfront
    obtain ⟨⟨body, rest'⟩, hbody, heq⟩ := Option.map_eq_some_iff.1 hfront
    obtain ⟨rfl, rfl⟩ := Prod.mk.inj heq
    obtain ⟨rfl, rfl⟩ := quoted?_of_isBody hq hl hbody
    exact ⟨_, rfl, hrest⟩

/-- **A comparison that starts where an element starts** is a literal, an operator and a literal. -/
theorem exists_of_written {w : Written} {t : Text} {es : List Element}
    (h : Reads (w.text ++ t) es) : ∃ es', es = elementsOf w ++ es' ∧ Reads t es' := by
  have hsplit : w.text ++ t = w.quote :: (w.left ++ w.quote :: (w.space ++ (sign w.negated ++
      (w.space' ++ w.quote' :: (w.right ++ w.quote' :: t))))) := by simp [Written.text]
  rw [hsplit] at h
  obtain ⟨es₁, rfl, h₁⟩ := h.exists_literal w.isDelimiter w.isBody
  obtain ⟨es₂, rfl, h₂⟩ := h₁.exists_spaces w.blank
  obtain ⟨es₃, rfl, h₃⟩ := h₂.tail_of_front (front?_sign w.negated _)
  obtain ⟨es₄, rfl, h₄⟩ := h₃.exists_spaces w.blank'
  obtain ⟨es₅, rfl, h₅⟩ := h₄.exists_literal w.isDelimiter' w.isBody'
  exact ⟨es₅, by simp [elementsOf], h₅⟩

end Reads

end Multidialect.Script
