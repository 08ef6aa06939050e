import Multidialect.Text.Sites

/-! # What replacing sites does

The sites of a text are what the matcher found there (`mem_pieces`). So a property of texts that
survives each single replacement, whatever stands around it, survives replacing all sites
(`replaceSites_keeps`).
-/

namespace Multidialect.Text

deriving instance DecidableEq for Piece

variable {α : Type}

/-- Whatever a matcher finds, together with the text covered, has the property `P`. -/
def Finds (m : Matcher α) (P : α → Text → Prop) : Prop :=
  ∀ before after a n, m before after = some (a, n) → P a (after.take n)

/-- What is covered, where the matcher counts it. -/
theorem take_of_eq_append {t front : Text} {n : Nat} (rest : Text) (h : t = front ++ rest)
    (hn : n = front.length) : t.take n = front := by
  rw [h, hn, List.take_left]

/-- What is covered, where the matcher counts what it leaves. -/
theorem take_sub_of_eq_append {t front rest : Text} (h : t = front ++ rest) :
    t.take (t.length - rest.length) = front :=
  take_of_eq_append rest h (by rw [h, List.length_append]; omega)

theorem mem_piecesFrom {m : Matcher α} {P : α → Text → Prop} (hm : Finds m P) {a : α}
    {covered : Text} (before : Text) (closed : Bool) (skip : Nat) (t : Text)
    (h : Piece.site a covered ∈ piecesFrom m before closed skip t) : P a covered := by
  induction t generalizing before closed skip with
  | nil =>
    simp only [piecesFrom] at h
    split at h
    · rename_i n hfound
      obtain ⟨rfl, rfl⟩ := Piece.site.inj (List.mem_singleton.1 h)
      simpa using hm before [] a n hfound
    · cases h
  | cons c cs ih =>
    simp only [piecesFrom] at h
    split at h
    · exact ih _ _ _ h
    · split at h
      · rcases List.mem_cons.1 h with h | h
        · cases h
        · exact ih _ _ _ h
      · rename_i hfound
        -- An empty site is left out directly behind another one.
        rcases List.mem_append.1 h with h | h
        · split at h
          · cases h
          · obtain ⟨rfl, rfl⟩ := Piece.site.inj (List.mem_singleton.1 h)
            exact hm before (c :: cs) a 0 hfound
        · rcases List.mem_cons.1 h with h | h
          · cases h
          · exact ih _ _ _ h
      · rename_i n hfound
        rcases List.mem_cons.1 h with h | h
        · obtain ⟨rfl, rfl⟩ := Piece.site.inj h
          exact hm before (c :: cs) a (n + 1) hfound
        · exact ih _ _ _ h

theorem mem_pieces {m : Matcher α} {P : α → Text → Prop} (hm : Finds m P) {t : Text} {a : α}
    {covered : Text} (h : Piece.site a covered ∈ pieces m t) : P a covered :=
  mem_piecesFrom hm [] false 0 t h

/-! ## One piece after another -/

theorem piecesFrom_skip (m : Matcher α) (before : Text) (closed : Bool) {u : Text} (v : Text)
    (hu : u ≠ []) : piecesFrom m before closed u.length (u ++ v) =
      piecesFrom m (u.reverse ++ before) true 0 v := by
  induction u generalizing before closed with
  | nil => exact absurd rfl hu
  | cons c u ih =>
    cases u with
    | nil => rfl
    | cons d u =>
      rw [List.reverse_cons, List.append_assoc]
      exact ih (c :: before) false (List.cons_ne_nil d u)

/-- Where something is found, it is a piece, and the search goes on behind it. -/
theorem piecesFrom_site {m : Matcher α} {before covered rest : Text} {a : α} (closed : Bool)
    (h : m before (covered ++ rest) = some (a, covered.length)) (hne : covered ≠ []) :
    piecesFrom m before closed 0 (covered ++ rest) =
      .site a covered :: piecesFrom m (covered.reverse ++ before) true 0 rest := by
  cases covered with
  | nil => exact absurd rfl hne
  | cons c u =>
    rw [List.cons_append, List.length_cons] at h
    have htake : (c :: (u ++ rest)).take (u.length + 1) = c :: u := by simp
    rw [List.cons_append, piecesFrom, h]
    dsimp only
    rw [htake, List.reverse_cons, List.append_assoc]
    cases u with
    | nil => rfl
    | cons d u => rw [piecesFrom_skip m (c :: before) _ rest (List.cons_ne_nil d u)]; rfl

/-- Where nothing is found, the characters are pieces. -/
theorem piecesFrom_run {m : Matcher α} {before u t : Text} (closed : Bool) (hne : u ≠ [])
    (h : ∀ x c y, u = x ++ c :: y → m (x.reverse ++ before) (c :: (y ++ t)) = none) :
    piecesFrom m before closed 0 (u ++ t) =
      u.map .plain ++ piecesFrom m (u.reverse ++ before) false 0 t := by
  induction u generalizing before closed with
  | nil => exact absurd rfl hne
  | cons c u ih =>
    have hfirst : m before (c :: (u ++ t)) = none := h [] c u rfl
    rw [List.cons_append, piecesFrom, hfirst]
    cases u with
    | nil => rfl
    | cons d u =>
      have hrest : piecesFrom m (c :: before) false 0 (d :: u ++ t) =
          (d :: u).map .plain ++ piecesFrom m ((d :: u).reverse ++ c :: before) false 0 t :=
        ih false (List.cons_ne_nil d u) fun x e y hu => by
          simpa using h (c :: x) e y (by rw [hu]; rfl)
      dsimp only
      rw [hrest]
      simp

/-- The text that follows `before`, with its sites replaced. -/
def replaceFrom (m : Matcher α) (f : α → Text → Text) (before t : Text) : Text :=
  (piecesFrom m before false 0 t).flatMap (Piece.edit f)

section Replacing

variable {m : Matcher α} (hm : Finds m fun _ covered => covered ≠ []) (f : α → Text → Text)
include hm

theorem piecesFrom_nil (before : Text) (closed : Bool) : piecesFrom m before closed 0 [] = [] := by
  have hnone : m before [] = none :=
    Option.eq_none_iff_forall_ne_some.2 fun found h => hm before [] _ _ h List.take_nil
  simp [piecesFrom, hnone]

/-- What covers something may be found directly behind another site. -/
theorem piecesFrom_closed (before : Text) (closed : Bool) (t : Text) :
    piecesFrom m before closed 0 t = piecesFrom m before false 0 t := by
  cases t with
  | nil => rw [piecesFrom_nil hm, piecesFrom_nil hm]
  | cons c cs =>
    rw [piecesFrom, piecesFrom]
    split
    · rfl
    · rename_i a h
      exact absurd rfl (hm before (c :: cs) a 0 h)
    · rfl

theorem replaceFrom_nil (before : Text) : replaceFrom m f before [] = [] := by
  rw [replaceFrom, piecesFrom_nil hm]
  rfl

omit hm in
theorem replaceFrom_plain {before cs : Text} {c : Char} (h : m before (c :: cs) = none) :
    replaceFrom m f before (c :: cs) = c :: replaceFrom m f (c :: before) cs := by
  simp [replaceFrom, piecesFrom, h, Piece.edit]

omit hm in
theorem replaceFrom_run {before u t : Text}
    (h : ∀ x c y, u = x ++ c :: y → m (x.reverse ++ before) (c :: (y ++ t)) = none) :
    replaceFrom m f before (u ++ t) = u ++ replaceFrom m f (u.reverse ++ before) t := by
  by_cases hne : u = []
  · rw [hne]
    rfl
  · have hplain : (u.map .plain).flatMap (Piece.edit f) = u := by
      rw [List.flatMap_map]
      exact List.flatMap_singleton' u
    rw [replaceFrom, piecesFrom_run false hne h, List.flatMap_append, hplain]
    rfl

theorem replaceFrom_site {before covered rest : Text} {a : α}
    (h : m before (covered ++ rest) = some (a, covered.length)) :
    replaceFrom m f before (covered ++ rest) =
      f a covered ++ replaceFrom m f (covered.reverse ++ before) rest := by
  have hne : covered ≠ [] := by simpa using hm before (covered ++ rest) a _ h
  rw [replaceFrom, piecesFrom_site false h hne, List.flatMap_cons, piecesFrom_closed hm]
  rfl

end Replacing

/-- A site among the pieces is what is found at its place. -/
theorem found_of_piecesFrom {m : Matcher α} (hm : Finds m fun _ covered => covered ≠ [])
    (hle : ∀ before after a n, m before after = some (a, n) → n ≤ after.length)
    {before t covered : Text} {closed : Bool} {ps qs : List (Piece α)} {a : α}
    (h : piecesFrom m before closed 0 t = ps ++ .site a covered :: qs) :
    m ((ps.flatMap Piece.source).reverse ++ before) (covered ++ qs.flatMap Piece.source) =
      some (a, covered.length) := by
  induction hlen : t.length using Nat.strongRecOn generalizing before t closed ps with
  | ind len ih =>
    cases t with
    | nil =>
      rw [piecesFrom_nil hm] at h
      cases ps <;> cases h
    | cons c cs =>
      cases hfound : m before (c :: cs) with
      | none =>
        rw [piecesFrom_closed hm, piecesFrom, hfound] at h
        cases ps with
        | nil => cases h
        | cons p ps =>
          obtain ⟨rfl, hmore⟩ := List.cons.inj h
          have hrest := ih cs.length (by rw [← hlen]; exact Nat.lt_succ_self _) hmore rfl
          simpa [Piece.source] using hrest
      | some found =>
        obtain ⟨a', n⟩ := found
        have htake : ((c :: cs).take n).length = n := List.length_take_of_le (hle _ _ _ _ hfound)
        have hne := hm _ _ _ _ hfound
        have hsite : m before ((c :: cs).take n ++ (c :: cs).drop n) =
            some (a', ((c :: cs).take n).length) := by
          rw [List.take_append_drop, htake, hfound]
        rw [← List.take_append_drop n (c :: cs), piecesFrom_site closed hsite hne] at h
        cases ps with
        | nil =>
          obtain ⟨hpiece, rfl⟩ := List.cons.inj h
          obtain ⟨rfl, rfl⟩ := Piece.site.inj hpiece
          rw [flatMap_source_piecesFrom]
          exact hsite
        | cons p ps =>
          obtain ⟨rfl, hmore⟩ := List.cons.inj h
          have hlt : ((c :: cs).drop n).length < len := by
            have := List.length_pos_iff.2 hne
            rw [← hlen, List.length_drop]
            simp only [List.length_cons] at *
            omega
          have hrest := ih _ hlt hmore rfl
          simpa [Piece.source] using hrest

/-- What single replacements keep, one after another keep. -/
theorem flatMap_edit_keeps {I : Text → Prop} {f : α → Text → Text} {ps : List (Piece α)}
    (h : ∀ a covered, Piece.site a covered ∈ ps → ∀ x y,
      I (x ++ covered ++ y) → I (x ++ f a covered ++ y)) (x : Text)
    (hsource : I (x ++ ps.flatMap Piece.source)) : I (x ++ ps.flatMap (Piece.edit f)) := by
  induction ps generalizing x with
  | nil => exact hsource
  | cons p ps ih =>
    rw [List.flatMap_cons, ← List.append_assoc] at hsource ⊢
    refine ih (fun a covered hm => h a covered (.tail _ hm)) _ ?_
    cases p with
    | plain c => exact hsource
    | site a covered => exact h a covered (.head _) x _ hsource

/-- **Replacing sites keeps what each replacement keeps.** -/
theorem replaceSites_keeps {I : Text → Prop} {m : Matcher α} {P : α → Text → Prop}
    {f : α → Text → Text} (hm : Finds m P)
    (h : ∀ a covered, P a covered → ∀ x y, I (x ++ covered ++ y) → I (x ++ f a covered ++ y))
    {t : Text} (ht : I t) : I (replaceSites m f t) := by
  have hsite : ∀ a covered, Piece.site a covered ∈ pieces m t → ∀ x y,
      I (x ++ covered ++ y) → I (x ++ f a covered ++ y) :=
    fun a covered hmem => h a covered (mem_pieces hm hmem)
  have hkept := flatMap_edit_keeps hsite [] (by rwa [List.nil_append, flatMap_source_pieces])
  rwa [List.nil_append] at hkept

/-- A replacement need only keep what holds around the place where the site was found. -/
theorem replaceSites_keeps_at {I : Text → Prop} {m : Matcher α} {f : α → Text → Text}
    (hm : Finds m fun _ covered => covered ≠ [])
    (hle : ∀ before after a n, m before after = some (a, n) → n ≤ after.length)
    (h : ∀ a covered before x y, m before (covered ++ y) = some (a, covered.length) →
      I (x ++ covered ++ y) → I (x ++ f a covered ++ y)) {t : Text} (ht : I t) :
    I (replaceSites m f t) := by
  -- The pieces `ps` have been replaced, by `x`, and `qs` are to come.
  have hkept : ∀ qs ps x, pieces m t = ps ++ qs → I (x ++ qs.flatMap Piece.source) →
      I (x ++ qs.flatMap (Piece.edit f)) := by
    intro qs
    induction qs with
    | nil => exact fun _ _ _ hx => hx
    | cons p qs ih =>
      intro ps x hpieces hx
      rw [List.flatMap_cons, ← List.append_assoc] at hx ⊢
      refine ih (ps ++ [p]) _ (by simp [hpieces]) ?_
      cases p with
      | plain c => exact hx
      | site a covered => exact h a covered _ x _ (found_of_piecesFrom hm hle hpieces) hx
  have hresult := hkept (pieces m t) [] [] rfl (by rwa [List.nil_append, flatMap_source_pieces])
  rwa [List.nil_append] at hresult

end Multidialect.Text
