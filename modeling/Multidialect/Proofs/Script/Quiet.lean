import Multidialect.Proofs.Script.Neighbours
import Multidialect.Proofs.Template.Operands

/-! # Where the search for comparisons can go astray

The search knows nothing of elements, so it may start at a quote within a literal or a comment, or at
the quote that ends a literal. It then looks for an operator behind another quote. In a quiet script
(`Element.isQuiet`) no quote within a literal or a comment stands in front of an operator, and the
search finds comparisons at literals only (`Reads.searched`).
-/

namespace Multidialect.Script

open Text
open Comparison (IsDelimiter IsBody Written sign body? site boundBefore boundAfter)
open Placeholder (isAhead isAhead_iff)

/-! ## Quiet elements -/

/-- Whether no quote in a text of some kind stands in front of an operator. What follows a line comment
may be an operator, so no quote ends it. -/
def isQuietText (kind : Kind) : Text → Bool
  | [] => true
  | c :: cs =>
    (!decide (IsDelimiter c) || (!isAhead cs && (kind != .lineComment || cs.any (!isBlank ·)))) &&
      isQuietText kind cs

/-- Whether a literal goes over a line end and holds its own quote behind a backslash. -/
def isBroken (e : Element) : Bool :=
  e.kind == .literal &&
    match e.source with
    | [] => false
    | q :: body => body.contains '\n' && body.dropLast.contains q

/-- Whether the search for comparisons finds nothing within an element. -/
def Element.isQuiet (e : Element) : Bool := isQuietText e.kind e.source && !isBroken e

theorem isQuietText_append {kind : Kind} {x y : Text} {q : Char} (hq : IsDelimiter q)
    (h : isQuietText kind (x ++ q :: y) = true) :
    isAhead y = false ∧ (kind = .lineComment → y.any (!isBlank ·) = true) := by
  induction x with
  | nil =>
    rw [List.nil_append, isQuietText] at h
    have hhead := (Bool.and_eq_true_iff.1 h).1
    simp only [hq, decide_true, Bool.not_true, Bool.false_or, Bool.and_eq_true, Bool.or_eq_true,
      Bool.not_eq_true', bne_iff_ne] at hhead
    exact ⟨hhead.1, fun hkind => hhead.2.resolve_left (absurd hkind)⟩
  | cons c x ih => exact ih (Bool.and_eq_true_iff.1 h).2

/-- An operator that starts in a text either ends there or starts with its last characters. -/
theorem isAhead_append {y rest : Text} (h : isAhead (y ++ rest) = true) :
    isAhead y = true ∨ (∀ c ∈ y, isBlank c = true) ∨
      rest.head? = some '=' ∧ ∃ c, y.getLast? = some c ∧ (c = '=' ∨ c = '!') := by
  obtain ⟨ws, negated, v, hws, heq⟩ := isAhead_iff.1 h
  rcases List.append_eq_append_iff.1 heq with ⟨more, rfl, -⟩ | ⟨more, rfl, hmore⟩
  · exact .inr (.inl fun c hc => hws c (List.mem_append_left _ hc))
  · rcases List.append_eq_append_iff.1 hmore with ⟨m, rfl, rfl⟩ | ⟨m, hm, hrest⟩
    · exact .inl (isAhead_iff.2 ⟨ws, negated, m, hws, rfl⟩)
    · have hfirst : ∃ c, sign negated = [c, '=', '='] ∧ (c = '=' ∨ c = '!') := by
        cases negated
        · exact ⟨'=', rfl, .inl rfl⟩
        · exact ⟨'!', rfl, .inr rfl⟩
      obtain ⟨c, hsign, hc⟩ := hfirst
      rw [hsign] at hm
      rcases more with _ | ⟨d, _ | ⟨d', _ | ⟨d'', more⟩⟩⟩
      · exact .inr (.inl (by simpa using hws))
      · simp only [List.cons_append, List.nil_append, List.cons.injEq] at hm
        obtain ⟨rfl, rfl⟩ := hm
        exact .inr (.inr ⟨by rw [hrest]; rfl, c, by simp, hc⟩)
      · simp only [List.cons_append, List.nil_append, List.cons.injEq] at hm
        obtain ⟨rfl, rfl, rfl⟩ := hm
        exact .inr (.inr ⟨by rw [hrest]; rfl, '=', by simp, .inl rfl⟩)
      · simp only [List.cons_append, List.cons.injEq] at hm
        obtain ⟨rfl, rfl, rfl, hnil⟩ := hm
        obtain ⟨rfl, rfl⟩ := List.nil_eq_append_iff.1 hnil
        exact .inl (isAhead_iff.2 ⟨ws, negated, [], hws, by rw [hsign, List.append_nil]⟩)

theorem getLast?_literal (q : Char) (body : Text) : (q :: (body ++ [q])).getLast? = some q :=
  List.getLast?_concat (l := q :: body)

theorem getLast?_blockComment (u : Text) : ('/' :: '*' :: (u ++ ['*', '/'])).getLast? = some '/' := by
  simp [List.getLast?_cons]

/-- The quotes of a literal. -/
theorem Shape.exists_quote {e : Element} {rest : Text} (h : Shape e rest) (hkind : e.kind = .literal) :
    ∃ q body, IsDelimiter q ∧ e.source = q :: (body ++ [q]) ∧
      quoted? q (body ++ q :: rest) = some (body, rest) := by
  cases h with
  | literal hq hbody => exact ⟨_, _, hq, rfl, hbody⟩
  | bare hbare _ _ _ _ => rcases hbare with rfl | rfl <;> cases hkind
  | _ => cases hkind

theorem literal_of_isAhead {e : Element} {x y rest : Text} {q : Char} (h : Shape e rest)
    (hquiet : e.isQuiet = true) (hq : IsDelimiter q) (hsplit : e.source = x ++ q :: y)
    (hahead : isAhead (y ++ rest) = true) : e.kind = .literal ∧ y = [] := by
  have hmem : q ∈ e.source := by simp [hsplit]
  have htext := (Bool.and_eq_true_iff.1 hquiet).1
  rw [hsplit] at htext
  obtain ⟨hinside, hline⟩ := isQuietText_append hq htext
  have hends := (isAhead_append hahead).resolve_left (by rw [hinside]; exact Bool.false_ne_true)
  -- The last character of an element is neither white space nor the start of an operator.
  have hlast : ∀ c, e.source.getLast? = some c → isBlank c = false ∧ c ≠ '=' ∧ c ≠ '!' →
      y = [] := by
    intro c hc hordinary
    by_contra hne
    have hy : y.getLast? = some c := by
      rwa [hsplit, List.getLast?_append_cons, List.getLast?_cons_of_ne_nil hne] at hc
    rcases hends with hblank | ⟨-, d, hd, hstart⟩
    · rw [hblank c (List.mem_of_getLast? hy)] at hordinary
      cases hordinary.1
    · rw [hy] at hd
      obtain rfl := Option.some.inj hd
      rcases hstart with rfl | rfl
      · exact hordinary.2.1 rfl
      · exact hordinary.2.2 rfl
  cases h with
  | space hc =>
    obtain rfl := List.mem_singleton.1 hmem
    exact absurd hc (by rcases hq with rfl | rfl <;> decide)
  | lineComment _ hend =>
    rcases hends with hblank | ⟨hhead, -⟩
    · obtain ⟨c, hc, hnot⟩ := List.any_eq_true.1 (hline rfl)
      rw [hblank c hc] at hnot
      cases hnot
    · exact absurd (hend _ hhead) (by decide)
  | blockComment =>
    obtain rfl := hlast '/' (getLast?_blockComment _) (by decide)
    have hslash := congrArg List.getLast? hsplit
    simp only [List.getLast?_append, List.getLast?_cons] at hslash
    rcases hq with rfl | rfl <;> simp at hslash
  | @literal q' body _ hq' _ =>
    exact ⟨rfl, hlast q' (getLast?_literal q' body) (by rcases hq' with rfl | rfl <;> decide)⟩
  | bare _ _ hbare _ _ =>
    exact absurd (hbare q hmem) (by rcases hq with rfl | rfl <;> decide)
  | punctuator hp =>
    have hall : ∀ p ∈ punctuators, '\'' ∉ p ∧ '"' ∉ p := by decide
    rcases hq with rfl | rfl
    · exact absurd hmem (hall _ hp).1
    · exact absurd hmem (hall _ hp).2

/-! ## Literals that start elsewhere -/

/-- The end of a body is a body, unless it starts within an escape. -/
theorem isBody_of_append {q : Char} {s l : Text} (hq : IsDelimiter q)
    (hs : s.getLast? = some '\\' → ∀ c, l.head? = some c → isTerminator c = true)
    (h : IsBody q (s ++ l)) : IsBody q l := by
  generalize hall : s ++ l = all at h
  induction h generalizing s with
  | nil =>
    obtain ⟨-, rfl⟩ := List.append_eq_nil_iff.1 hall
    exact .nil
  | char hc hn hb hcs ih =>
    cases s with
    | nil =>
      obtain rfl := hall
      exact .char hc hn hb hcs
    | cons d s =>
      exact ih (fun hlast => hs (by rw [List.getLast?_cons, hlast]; rfl)) (List.cons.inj hall).2
  | @escape c cs hn hcs ih =>
    rcases s with _ | ⟨d, _ | ⟨d', s⟩⟩
    · obtain rfl := hall
      exact .escape hn hcs
    · -- The backslash takes the character behind it along, which ends a line.
      obtain ⟨rfl, rfl⟩ := List.cons.inj hall
      have hend := hs rfl c rfl
      refine .char ?_ hn ?_ hcs
      · rintro rfl
        exact absurd hend (by rcases hq with rfl | rfl <;> decide)
      · rintro rfl
        exact absurd hend (by decide)
    · refine ih (fun hlast => hs ?_) (List.cons.inj (List.cons.inj hall).2).2
      rw [List.getLast?_cons, List.getLast?_cons, hlast]
      rfl

/-- A literal that starts in front of a text ends in it or goes on behind it. -/
theorem body?_append {q : Char} {s r l more : Text} (hq : IsDelimiter q)
    (hs : s.getLast? = some '\\' → ∀ c, r.head? = some c → isTerminator c = true)
    (h : body? q (s ++ r) = some (l, more)) :
    (∃ l' y, s = l' ++ q :: y ∧ more = y ++ r) ∨ ∃ l', body? q r = some (l', more) := by
  obtain ⟨hl, heq⟩ := (Comparison.body?_iff hq).1 h
  rcases List.append_eq_append_iff.1 heq with ⟨l', rfl, rfl⟩ | ⟨y, rfl, hmore⟩
  · have hright : IsBody q l' := isBody_of_append hq (fun hlast c hc =>
      hs hlast c (by rw [List.head?_append, hc]; rfl)) hl
    exact .inr ⟨l', (Comparison.body?_iff hq).2 ⟨hright, rfl⟩⟩
  · cases y with
    | nil => exact .inr ⟨[], by rw [← List.nil_append r, ← hmore, Comparison.body?_quote]⟩
    | cons d y =>
      obtain ⟨rfl, rfl⟩ := List.cons.inj hmore
      exact .inl ⟨l, y, rfl, rfl⟩

theorem terminator_of_backslash {e : Element} {rest : Text} (h : Shape e rest)
    (hlast : e.source.getLast? = some '\\') :
    ∀ c, rest.head? = some c → isTerminator c = true := by
  cases h with
  | space hc =>
    obtain rfl := Option.some.inj hlast
    exact absurd hc (by decide)
  | lineComment _ hend => exact hend
  | blockComment =>
    rw [getLast?_blockComment] at hlast
    cases hlast
  | literal hq _ =>
    rw [getLast?_literal] at hlast
    exact absurd (Option.some.inj hlast) hq.ne_backslash
  | bare _ _ _ hback _ => exact absurd hlast hback
  | punctuator hp =>
    have hall : ∀ p ∈ punctuators, p.getLast? ≠ some '\\' := by decide
    exact absurd hlast (hall _ hp)

/-- A literal that starts between two elements of a quiet script is not compared. -/
theorem Reads.not_isAhead {t l more : Text} {es : List Element} {q : Char} (h : Reads t es)
    (hquiet : ∀ e ∈ es, e.isQuiet = true) (hq : IsDelimiter q) (hbody : body? q t = some (l, more)) :
    isAhead more = false := by
  induction h generalizing l with
  | nil => cases hbody
  | @cons t rest e es hfront _ ih =>
    obtain ⟨rfl, hshape⟩ := shape_of_front? hfront
    rcases body?_append hq (terminator_of_backslash hshape) hbody with
      ⟨l', y, hsplit, rfl⟩ | ⟨l', hrest⟩
    · refine Bool.eq_false_iff.2 fun hahead => ?_
      obtain ⟨hkind, rfl⟩ := literal_of_isAhead hshape (hquiet e (.head _)) hq hsplit hahead
      obtain ⟨q', body, -, hsource, -⟩ := hshape.exists_quote hkind
      -- The quote that ends a literal starts it, too, so the search would have ended there.
      have hlast := congrArg List.getLast? hsource
      rw [hsplit, getLast?_literal, List.getLast?_concat] at hlast
      obtain rfl := Option.some.inj hlast
      rw [hsource, List.cons_append, Comparison.body?_quote] at hbody
      have hlen := congrArg List.length (Prod.mk.inj (Option.some.inj hbody)).2
      simp only [List.length_append, List.length_singleton, List.length_nil] at hlen
      omega
    · exact ih (fun e he => hquiet e (.tail _ he)) hrest

theorem isBody_of_quoted? {q : Char} {t body rest : Text} (h : quoted? q t = some (body, rest))
    (hfeed : '\n' ∉ body) : IsBody q body := by
  fun_induction quoted? q t generalizing body with
  | case1 cs ih =>
    obtain ⟨⟨more, rest'⟩, hmore, h⟩ := Option.map_eq_some_iff.1 h
    obtain ⟨rfl, rfl⟩ := Prod.mk.inj h
    simp at hfeed
  | case2 c cs _ ih =>
    obtain ⟨⟨more, rest'⟩, hmore, h⟩ := Option.map_eq_some_iff.1 h
    obtain ⟨rfl, rfl⟩ := Prod.mk.inj h
    simp only [List.mem_cons, not_or] at hfeed
    exact .escape (Ne.symm hfeed.2.1) (ih hmore hfeed.2.2)
  | case3 cs =>
    obtain ⟨rfl, rfl⟩ := Prod.mk.inj (Option.some.inj h)
    exact .nil
  | case4 => cases h
  | case5 c cs _ _ hq hc ih =>
    obtain ⟨⟨more, rest'⟩, hmore, h⟩ := Option.map_eq_some_iff.1 h
    obtain ⟨rfl, rfl⟩ := Prod.mk.inj h
    simp only [not_or] at hc
    exact .char hq hc.2.1 hc.1 (ih hmore fun hm => hfeed (.tail _ hm))
  | case6 => cases h

/-- A comparison from behind its first literal on, and what follows it. -/
def operatorOn (w : Written) (rest : Text) : Text :=
  w.space ++ (sign w.negated ++ (w.space' ++ w.quote' :: (w.right ++ w.quote' :: rest)))

theorem operatorOn_append (w : Written) (rest : Text) :
    w.text ++ rest = w.quote :: (w.left ++ w.quote :: operatorOn w rest) := by
  simp [Written.text, operatorOn]

theorem isAhead_operatorOn (w : Written) (rest : Text) : isAhead (operatorOn w rest) = true :=
  isAhead_iff.2 ⟨w.space, w.negated, _, w.blank, rfl⟩

/-- Within an element of a quiet script nothing is found, unless something is found where it starts. -/
theorem Reads.site_eq_none {t before x y : Text} {c : Char} {e : Element} {es : List Element}
    (h : Reads t (e :: es)) (hquiet : ∀ e' ∈ e :: es, e'.isQuiet = true)
    (hnone : site before t = none) (hsplit : e.source = x ++ c :: y) :
    site (x.reverse ++ before) (c :: (y ++ text es)) = none := by
  refine Option.eq_none_iff_forall_ne_some.2 fun ⟨value, n⟩ hfound => ?_
  obtain ⟨w, rest, hw, -, -⟩ := Comparison.site_iff.1 hfound
  obtain ⟨ht, hes, hshape⟩ := h.of_cons
  rw [operatorOn_append] at hw
  obtain ⟨rfl, hy⟩ := List.cons.inj hw
  have hahead := isAhead_operatorOn w rest
  have hbody : body? w.quote (y ++ text es) = some (w.left, operatorOn w rest) :=
    (Comparison.body?_iff w.isDelimiter).2 ⟨w.isBody, hy⟩
  have hback : y.getLast? = some '\\' → ∀ d, (text es).head? = some d → isTerminator d = true := by
    intro hlast
    refine terminator_of_backslash hshape ?_
    rw [hsplit, List.getLast?_append_cons, List.getLast?_cons, hlast]
    rfl
  rcases body?_append w.isDelimiter hback hbody with ⟨l, y', rfl, hmore⟩ | ⟨l, hrest⟩
  · rw [hmore] at hahead
    have hsplit' : e.source = (x ++ w.quote :: l) ++ w.quote :: y' := by rw [hsplit]; simp
    obtain ⟨hkind, rfl⟩ :=
      literal_of_isAhead hshape (hquiet e (.head _)) w.isDelimiter hsplit' hahead
    obtain ⟨q, body, hq, hsource, hquoted⟩ := hshape.exists_quote hkind
    have hlast := congrArg List.getLast? hsource
    rw [hsplit', getLast?_literal, List.getLast?_concat] at hlast
    obtain rfl := Option.some.inj hlast
    cases x with
    | nil =>
      rw [hsplit] at ht
      rw [ht] at hnone
      exact absurd (hnone.symm.trans hfound) (by simp)
    | cons d x =>
      -- The quote stands within the literal, so the whole literal would have been compared.
      have hinner : body = x ++ w.quote :: l := by
        rw [hsplit', List.cons_append, List.cons_append] at hsource
        exact (List.append_cancel_right (List.cons.inj hsource).2).symm
      have hfeed : '\n' ∉ body := by
        intro hm
        have hquote : w.quote ∈ body := by simp [hinner]
        have hbroken := (Bool.and_eq_true_iff.1 (hquiet e (.head _))).2
        simp [isBroken, hkind, hsource, hm, hquote] at hbroken
      have hwhole : site before t = some _ := Comparison.site_iff.2
        ⟨{ w with left := body, isBody := isBody_of_quoted? hquoted hfeed }, rest, by
          rw [operatorOn_append, ht, hsource]
          change _ = w.quote :: (body ++ w.quote :: operatorOn w rest)
          rw [hmore]
          simp, rfl, rfl⟩
      rw [hnone] at hwhole
      cases hwhole
  · rw [hes.not_isAhead (fun e' he' => hquiet e' (.tail _ he')) w.isDelimiter hrest] at hahead
    cases hahead

/-! ## The search -/

/-- A search for comparisons in which each one is made of elements. -/
inductive Searched : (back es : List Element) → List (Piece (Option Bool)) → Prop
  | done (back : List Element) : Searched back [] []
  | pass {back es : List Element} {e : Element} {ps : List (Piece (Option Bool))} :
      Searched (e :: back) es ps → Searched back (e :: es) (e.source.map .plain ++ ps)
  | found {back es : List Element} {w : Written} {value : Option Bool}
      {ps : List (Piece (Option Bool))} : Searched ((elementsOf w).reverse ++ back) es ps →
      Searched back (elementsOf w ++ es) (.site value w.text :: ps)

/-- **In a quiet script** the search finds comparisons at literals only. -/
theorem Reads.searched {t : Text} {back es : List Element} (h : Reads t es)
    (hquiet : ∀ e ∈ es, e.isQuiet = true) (closed : Bool) :
    Searched back es (piecesFrom site (behind back) closed 0 t) := by
  induction hlen : es.length using Nat.strongRecOn generalizing t back es closed with
  | ind len ih =>
    cases es with
    | nil =>
      rw [h.eq_text]
      cases closed <;> exact .done back
    | cons e es =>
      cases hfound : site (behind back) t with
      | some found =>
        obtain ⟨value, n⟩ := found
        obtain ⟨w, rest, rfl, rfl, -⟩ := Comparison.site_iff.1 hfound
        obtain ⟨es', hes, hrest⟩ := h.exists_of_written
        have hbehind : w.text.reverse ++ behind back = behind ((elementsOf w).reverse ++ back) := by
          rw [behind_append, behind_eq (elementsOf w).reverse, List.reverse_reverse, text_elementsOf]
        rw [hes] at hlen hquiet ⊢
        rw [piecesFrom_site closed hfound w.text_ne_nil, hbehind]
        refine .found (ih es'.length ?_ hrest (fun e' he' => hquiet e' ?_) true rfl)
        · rw [← hlen, elementsOf, List.cons_append, List.length_cons, List.length_append]
          omega
        · exact List.mem_append_right _ he'
      | none =>
        obtain ⟨ht, hes, hshape⟩ := h.of_cons
        have hpass := piecesFrom_run closed (source_ne_nil hshape) fun x c y hsplit =>
          h.site_eq_none hquiet hfound hsplit
        rw [ht, hpass, ← behind_cons]
        exact .pass (ih es.length (by rw [← hlen]; exact Nat.lt_succ_self _) hes
          (fun e' he' => hquiet e' (.tail _ he')) false rfl)

end Multidialect.Script
