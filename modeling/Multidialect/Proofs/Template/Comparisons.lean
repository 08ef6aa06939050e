import Multidialect.Proofs.Template.Sites

/-! # How comparisons are written

The reader of comparisons finds exactly what `Comparison.Written` describes: two literals between
quotes, each on one line, with an operator and white space between them (`Comparison.parse?_iff`).
-/

namespace Multidialect

open Text

namespace Comparison

/-- A quote that literals are written between. -/
def IsDelimiter (q : Char) : Prop := q = '\'' ∨ q = '"'

instance (q : Char) : Decidable (IsDelimiter q) := inferInstanceAs (Decidable (_ ∨ _))

theorem IsDelimiter.not_blank {q : Char} (h : IsDelimiter q) : isBlank q = false := by
  rcases h with rfl | rfl <;> decide

theorem IsDelimiter.ne_backslash {q : Char} (h : IsDelimiter q) : q ≠ '\\' := by
  rcases h with rfl | rfl <;> decide

/-- What may stand between two quotes `q`: the quote and the backslash only behind a backslash, and
no line feed. -/
inductive IsBody (q : Char) : Text → Prop
  | nil : IsBody q []
  | char {c : Char} {cs : Text} : c ≠ q → c ≠ '\n' → c ≠ '\\' → IsBody q cs → IsBody q (c :: cs)
  | escape {c : Char} {cs : Text} : c ≠ '\n' → IsBody q cs → IsBody q ('\\' :: c :: cs)

theorem body?_quote (q : Char) (rest : Text) : body? q (q :: rest) = some ([], rest) := by
  cases rest <;> simp [body?]

theorem body?_char {q c : Char} (hq : c ≠ q) (hn : c ≠ '\n') (hb : c ≠ '\\') (rest : Text) :
    body? q (c :: rest) = (body? q rest).map fun (body, rest) => (c :: body, rest) := by
  cases rest <;> simp [body?, hq, hn, hb]

theorem body?_escape {q c : Char} (hq : q ≠ '\\') (hn : c ≠ '\n') (rest : Text) :
    body? q ('\\' :: c :: rest) =
      (body? q rest).map fun (body, rest) => ('\\' :: c :: body, rest) := by
  simp [body?, hq.symm, hn]

theorem body?_iff {q : Char} (hq : IsDelimiter q) {t body rest : Text} :
    body? q t = some (body, rest) ↔ IsBody q body ∧ t = body ++ q :: rest := by
  constructor
  · intro h
    refine ⟨?_, body?_eq_some h⟩
    fun_induction body? q t generalizing body with
    | case1 => cases h
    | case2 cs =>
      obtain ⟨rfl, -⟩ := Prod.mk.inj (Option.some.inj h)
      exact .nil
    | case3 => cases h
    | case4 => cases h
    | case5 => cases h
    | case6 d ds hd hq hn ih =>
      obtain ⟨⟨more, rest'⟩, hmore, h⟩ := Option.map_eq_some_iff.1 h
      obtain ⟨rfl, rfl⟩ := Prod.mk.inj h
      exact .escape hd (ih hmore)
    | case7 c cs hq hn hb ih =>
      obtain ⟨⟨more, rest'⟩, hmore, h⟩ := Option.map_eq_some_iff.1 h
      obtain ⟨rfl, rfl⟩ := Prod.mk.inj h
      exact .char hq hn hb (ih hmore)
  · rintro ⟨hbody, rfl⟩
    induction hbody with
    | nil => exact body?_quote q rest
    | char hc hn hb _ ih =>
      rw [List.cons_append, body?_char hc hn hb, ih]
      rfl
    | escape hn _ ih =>
      rw [List.cons_append, List.cons_append, body?_escape hq.ne_backslash hn, ih]
      rfl

theorem literal?_iff {t body rest : Text} :
    literal? t = some (body, rest) ↔
      ∃ q, IsDelimiter q ∧ IsBody q body ∧ t = q :: (body ++ q :: rest) := by
  constructor
  · intro h
    unfold literal? at h
    split at h
    · cases h
    · rename_i c cs
      split at h
      · rename_i hc
        obtain ⟨hbody, rfl⟩ := (body?_iff hc).1 h
        exact ⟨c, hc, hbody, rfl⟩
      · cases h
  · rintro ⟨q, hq, hbody, rfl⟩
    exact (if_pos hq).trans ((body?_iff hq).2 ⟨hbody, rfl⟩)

/-- The operator of a comparison. -/
def sign (negated : Bool) : Text := if negated then ['!', '=', '='] else ['=', '=', '=']

theorem comparison?_iff {t op rest : Text} :
    comparison? t = some (op, rest) ↔ ∃ negated, op = sign negated ∧ t = op ++ rest := by
  constructor
  · intro h
    refine (?_ : ∃ negated, op = sign negated).imp fun _ hop => ⟨hop, eq_append_of_comparison? h⟩
    unfold comparison? at h
    split at h
    · obtain ⟨rfl, -⟩ := Prod.mk.inj (Option.some.inj h)
      exact ⟨false, rfl⟩
    · obtain ⟨rfl, -⟩ := Prod.mk.inj (Option.some.inj h)
      exact ⟨true, rfl⟩
    · cases h
  · rintro ⟨negated, rfl, rfl⟩
    cases negated <;> rfl

/-- A comparison with all that is written: the quotes, and the white space around the operator. -/
structure Written extends Comparison where
  quote : Char
  space : Text
  space' : Text
  quote' : Char
  isDelimiter : IsDelimiter quote
  isBody : IsBody quote left
  blank : ∀ c ∈ space, isBlank c = true
  blank' : ∀ c ∈ space', isBlank c = true
  isDelimiter' : IsDelimiter quote'
  isBody' : IsBody quote' right

namespace Written

/-- The characters of a comparison. -/
def text (w : Written) : Text :=
  w.quote :: (w.left ++ w.quote :: (w.space ++ (sign w.negated ++ (w.space' ++
    w.quote' :: (w.right ++ [w.quote'])))))

end Written

theorem sign_not_blank (negated : Bool) (rest : Text) :
    (sign negated ++ rest).head?.any isBlank = false := by
  have hequals : isBlank '=' = false := by decide
  have hmark : isBlank '!' = false := by decide
  cases negated <;> simp [sign, hequals, hmark]

/-- The reader finds what is written. -/
theorem parse?_iff {t rest : Text} {c : Comparison} :
    parse? t = some (c, rest) ↔ ∃ w : Written, w.toComparison = c ∧ t = w.text ++ rest := by
  constructor
  · intro h
    obtain ⟨⟨left, more⟩, hleft, h⟩ := Option.bind_eq_some_iff.1 h
    obtain ⟨⟨op, more'⟩, hop, h⟩ := Option.bind_eq_some_iff.1 h
    obtain ⟨⟨right, more''⟩, hright, h⟩ := Option.bind_eq_some_iff.1 h
    obtain ⟨rfl, rfl⟩ := Prod.mk.inj (Option.some.inj h)
    obtain ⟨q, hq, hbody, rfl⟩ := literal?_iff.1 hleft
    obtain ⟨negated, rfl, hmore⟩ := comparison?_iff.1 hop
    obtain ⟨q', hq', hbody', hmore'⟩ := literal?_iff.1 hright
    refine ⟨⟨⟨left, negated, right⟩, q, more.takeWhile isBlank, more'.takeWhile isBlank, q', hq, hbody,
      all_takeWhile, all_takeWhile, hq', hbody'⟩, ?_, ?_⟩
    · cases negated <;> rfl
    · have hsplit : more = more.takeWhile isBlank ++ (sign negated ++ more') := by
        rw [← hmore, takeWhile_append_trimStart]
      have hsplit' : more' = more'.takeWhile isBlank ++ q' :: (right ++ q' :: more'') := by
        rw [← hmore', takeWhile_append_trimStart]
      calc q :: (left ++ q :: more)
          = q :: (left ++ q :: (more.takeWhile isBlank ++ (sign negated ++
              (more'.takeWhile isBlank ++ q' :: (right ++ q' :: more''))))) := by
            rw [← hsplit', ← hsplit]
        _ = _ := by simp [Written.text]
  · rintro ⟨w, rfl, rfl⟩
    have hquote' := w.isDelimiter'.not_blank
    have hleft : literal? (w.text ++ rest) = some (w.left, w.space ++ (sign w.negated ++ (w.space' ++
        w.quote' :: (w.right ++ w.quote' :: rest)))) :=
      literal?_iff.2 ⟨w.quote, w.isDelimiter, w.isBody, by simp [Written.text]⟩
    have hright : literal? (w.quote' :: (w.right ++ w.quote' :: rest)) = some (w.right, rest) :=
      literal?_iff.2 ⟨w.quote', w.isDelimiter', w.isBody', rfl⟩
    have htrim := trimStart_of_run w.blank (sign_not_blank w.negated
      (w.space' ++ w.quote' :: (w.right ++ w.quote' :: rest)))
    have htrim' : trimStart (w.space' ++ w.quote' :: (w.right ++ w.quote' :: rest)) =
        w.quote' :: (w.right ++ w.quote' :: rest) := trimStart_of_run w.blank' (by simpa using hquote')
    have hop := comparison?_iff.2 ⟨w.negated, rfl,
      rfl (a := sign w.negated ++ (w.space' ++ w.quote' :: (w.right ++ w.quote' :: rest)))⟩
    rw [parse?, hleft]
    simp only [Option.bind_eq_bind, Option.bind_some, htrim, hop, htrim', hright]
    obtain ⟨⟨left, negated, right⟩, q, ws, ws', q', _⟩ := w
    cases negated <;> rfl

/-- A comparison is found where one is written, with its value unless a neighbour binds one of its
literals. -/
theorem site_iff {before after : Text} {value : Option Bool} {n : Nat} :
    site before after = some (value, n) ↔ ∃ (w : Written) (rest : Text), after = w.text ++ rest ∧
      n = w.text.length ∧
      value = if boundBefore before || boundAfter rest then none else some w.value := by
  constructor
  · intro h
    obtain ⟨⟨c, rest⟩, hparse, h⟩ := Option.bind_eq_some_iff.1 h
    obtain ⟨rfl, rfl⟩ := Prod.mk.inj (Option.some.inj h)
    obtain ⟨w, rfl, rfl⟩ := parse?_iff.1 hparse
    exact ⟨w, rest, rfl, by simp, rfl⟩
  · rintro ⟨w, rest, rfl, rfl, rfl⟩
    rw [site, parse?_iff.2 ⟨w, rfl, rfl⟩]
    simp

namespace Written

theorem text_ne_nil (w : Written) : w.text ≠ [] := List.cons_ne_nil _ _

/-- The characters tell which comparison is written. -/
theorem eq_of_text {w w' : Written} {rest rest' : Text} (h : w.text ++ rest = w'.text ++ rest') :
    w.toComparison = w'.toComparison ∧ rest = rest' := by
  have hparse := parse?_iff.2 ⟨w, rfl, rfl (a := w.text ++ rest)⟩
  rw [h, parse?_iff.2 ⟨w', rfl, rfl⟩] at hparse
  obtain ⟨hw, hrest⟩ := Prod.mk.inj (Option.some.inj hparse)
  exact ⟨hw.symm, hrest.symm⟩

end Written

/-- What is replaced is replaced by the value of the comparison that is written there. -/
theorem value_of_mem_pieces {t : Text} {b : Bool} {w : Written}
    (h : Piece.site (some b) w.text ∈ pieces site t) : b = w.value := by
  have hfinds : Finds site fun value covered => ∃ w : Written, covered = w.text ∧
      ∀ b, value = some b → b = w.value := by
    intro before after value n hsite
    obtain ⟨w, rest, rfl, rfl, rfl⟩ := site_iff.1 hsite
    refine ⟨w, List.take_left, fun b hb => ?_⟩
    split at hb
    · cases hb
    · exact (Option.some.inj hb).symm
  obtain ⟨w', htext, hvalue⟩ := mem_pieces hfinds h
  have hsame := (Written.eq_of_text (congrArg (· ++ []) htext)).1
  rw [hvalue b rfl, ← hsame]

/-- A comparison that stands alone is replaced. -/
theorem mem_pieces_text (w : Written) : Piece.site (some w.value) w.text ∈ pieces site w.text := by
  have hfound : site [] (w.text ++ []) = some (some w.value, w.text.length) :=
    site_iff.2 ⟨w, [], rfl, rfl, rfl⟩
  have hpieces := piecesFrom_site false hfound w.text_ne_nil
  rw [List.append_nil] at hpieces
  rw [pieces, hpieces]
  exact .head _

end Comparison

end Multidialect
