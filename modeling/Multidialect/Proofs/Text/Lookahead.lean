import Multidialect.Proofs.Text.Words

/-! # Sites told by what follows

Some matchers look at what follows a place only. For these the pieces of a text are those of its front
and of the rest (`pieces_plain`, `pieces_site`), so that a text can be read piece by piece
(`pieces_induction`). A front of the text with the sites replaced was there before if what is put in can
be no part of it (`prefix_of_replaceSites`).
-/

namespace Multidialect.Text

variable {α : Type}

/-- What was found, and what it covers, if the piece is a site. -/
def Piece.located? : Piece α → Option (α × Text)
  | .plain _ => none
  | .site a covered => some (a, covered)

/-- What a matcher finds in a text, each with what it covers, from left to right. -/
def located (m : Matcher α) (t : Text) : List (α × Text) := (pieces m t).filterMap Piece.located?

theorem map_fst_located (m : Matcher α) (t : Text) : (located m t).map Prod.fst = sites m t := by
  have hfound : Piece.found? (α := α) = fun p => p.located?.map Prod.fst := by
    funext p
    cases p <;> rfl
  rw [located, sites, List.map_filterMap, hfound]

/-- A matcher that looks at what follows only, and finds something that is there. -/
structure Forward (m : Matcher α) : Prop where
  ahead : ∀ before after, m before after = m [] after
  covers : Finds m fun _ covered => covered ≠ []
  within : ∀ before after a n, m before after = some (a, n) → n ≤ after.length

namespace Forward

variable {m : Matcher α} (h : Forward m)
include h

theorem piecesFrom_before (before : Text) (closed : Bool) (skip : Nat) (t : Text) :
    piecesFrom m before closed skip t = piecesFrom m [] closed skip t := by
  induction t generalizing before closed skip with
  | nil => simp only [piecesFrom, h.ahead before]
  | cons c t ih =>
    cases skip with
    | succ skip =>
      rw [piecesFrom, piecesFrom, ih, ih [c]]
    | zero =>
      simp only [piecesFrom, h.ahead before, ih (c :: before), ih [c]]

theorem pieces_nil : pieces m [] = [] := piecesFrom_nil h.covers [] false

theorem pieces_plain {c : Char} {t : Text} (hnone : m [] (c :: t) = none) :
    pieces m (c :: t) = .plain c :: pieces m t := by
  rw [pieces, piecesFrom, hnone]
  dsimp only
  rw [h.piecesFrom_before, pieces]

theorem pieces_site {a : α} {covered rest : Text}
    (hsome : m [] (covered ++ rest) = some (a, covered.length)) :
    pieces m (covered ++ rest) = .site a covered :: pieces m rest := by
  have hne : covered ≠ [] := by simpa using h.covers [] (covered ++ rest) a _ hsome
  rw [pieces, piecesFrom_site false hsome hne, piecesFrom_closed h.covers, h.piecesFrom_before, pieces]

/-- Where nothing is found, the characters are pieces. -/
theorem pieces_run {u t : Text} (hnone : ∀ x y, u = x ++ y → y ≠ [] → m [] (y ++ t) = none) :
    pieces m (u ++ t) = u.map .plain ++ pieces m t := by
  induction u with
  | nil => rfl
  | cons c u ih =>
    have hfirst : m [] (c :: (u ++ t)) = none := hnone [] (c :: u) rfl (List.cons_ne_nil c u)
    rw [List.cons_append, h.pieces_plain hfirst,
      ih fun x y hu hy => hnone (c :: x) y (by rw [hu]; rfl) hy]
    rfl

theorem sites_nil : sites m [] = [] := by
  rw [sites, h.pieces_nil]
  rfl

theorem sites_plain {c : Char} {t : Text} (hnone : m [] (c :: t) = none) :
    sites m (c :: t) = sites m t := by
  rw [sites, h.pieces_plain hnone]
  rfl

theorem sites_site {a : α} {covered rest : Text}
    (hsome : m [] (covered ++ rest) = some (a, covered.length)) :
    sites m (covered ++ rest) = a :: sites m rest := by
  rw [sites, h.pieces_site hsome]
  rfl

theorem sites_run {u t : Text} (hnone : ∀ x y, u = x ++ y → y ≠ [] → m [] (y ++ t) = none) :
    sites m (u ++ t) = sites m t := by
  have hplain : (u.map .plain).filterMap (Piece.found? (α := α)) = [] := by
    simp [Piece.found?]
  rw [sites, h.pieces_run hnone, List.filterMap_append, hplain, List.nil_append, sites]

theorem located_nil : located m [] = [] := by
  rw [located, h.pieces_nil]
  rfl

theorem located_plain {c : Char} {t : Text} (hnone : m [] (c :: t) = none) :
    located m (c :: t) = located m t := by
  rw [located, h.pieces_plain hnone]
  rfl

theorem located_site {a : α} {covered rest : Text}
    (hsome : m [] (covered ++ rest) = some (a, covered.length)) :
    located m (covered ++ rest) = (a, covered) :: located m rest := by
  rw [located, h.pieces_site hsome]
  rfl

theorem located_run {u t : Text} (hnone : ∀ x y, u = x ++ y → y ≠ [] → m [] (y ++ t) = none) :
    located m (u ++ t) = located m t := by
  have hplain : (u.map .plain).filterMap (Piece.located? (α := α)) = [] := by
    simp [Piece.located?]
  rw [located, h.pieces_run hnone, List.filterMap_append, hplain, List.nil_append, located]

variable (f : α → Text → Text)

theorem replaceSites_nil : replaceSites m f [] = [] := by
  rw [replaceSites, h.pieces_nil]
  rfl

theorem replaceSites_plain {c : Char} {t : Text} (hnone : m [] (c :: t) = none) :
    replaceSites m f (c :: t) = c :: replaceSites m f t := by
  rw [replaceSites, h.pieces_plain hnone]
  rfl

theorem replaceSites_site {a : α} {covered rest : Text}
    (hsome : m [] (covered ++ rest) = some (a, covered.length)) :
    replaceSites m f (covered ++ rest) = f a covered ++ replaceSites m f rest := by
  rw [replaceSites, h.pieces_site hsome]
  rfl

theorem replaceSites_run {u t : Text} (hnone : ∀ x y, u = x ++ y → y ≠ [] → m [] (y ++ t) = none) :
    replaceSites m f (u ++ t) = u ++ replaceSites m f t := by
  have hplain : (u.map .plain).flatMap (Piece.edit f) = u := by
    rw [List.flatMap_map]
    exact List.flatMap_singleton' u
  rw [replaceSites, h.pieces_run hnone, List.flatMap_append, hplain, replaceSites]

/-- A text is empty, or a character or a site in front of a text. -/
@[elab_as_elim]
theorem pieces_induction {P : Text → Prop} (nil : P [])
    (plain : ∀ c t, m [] (c :: t) = none → P t → P (c :: t))
    (site : ∀ a covered rest, m [] (covered ++ rest) = some (a, covered.length) → P rest →
      P (covered ++ rest)) (t : Text) : P t := by
  induction hlen : t.length using Nat.strongRecOn generalizing t with
  | ind len ih =>
    cases t with
    | nil => exact nil
    | cons c t =>
      cases hfound : m [] (c :: t) with
      | none => exact plain c t hfound (ih t.length (by simp [← hlen]) t rfl)
      | some found =>
        obtain ⟨a, n⟩ := found
        have hle := h.within _ _ _ _ hfound
        have hne := h.covers _ _ _ _ hfound
        have hcut := List.take_append_drop n (c :: t)
        have hsome : m [] ((c :: t).take n ++ (c :: t).drop n) = some (a, ((c :: t).take n).length) := by
          rw [hcut, List.length_take_of_le hle, hfound]
        have hshort : ((c :: t).drop n).length < len := by
          have hpos := List.length_pos_iff.2 hne
          rw [List.length_take_of_le hle] at hpos
          rw [List.length_drop]
          omega
        have hsite := site a _ _ hsome (ih _ hshort _ rfl)
        rwa [hcut] at hsite

/-- A front of the text with the sites replaced was there before, if what takes the place of a site is
unlike each end of that front. -/
theorem prefix_of_replaceSites {f : α → Text → Text} {s t : Text}
    (hput : ∀ a covered rest, m [] (covered ++ rest) = some (a, covered.length) →
      f a covered = covered ∨ ∀ x y, s = x ++ y → y ≠ [] → Unlike (f a covered) y)
    (hpre : s <+: replaceSites m f t) : s <+: t := by
  induction t using h.pieces_induction generalizing s with
  | nil => rwa [h.replaceSites_nil] at hpre
  | plain c t hnone ih =>
    rw [h.replaceSites_plain f hnone] at hpre
    cases s with
    | nil => exact List.nil_prefix
    | cons d s =>
      obtain ⟨rfl, hmore⟩ := List.cons_prefix_cons.1 hpre
      exact List.cons_prefix_cons.2 ⟨rfl, ih (fun a covered rest ha => (hput a covered rest ha).imp_right
        fun hunlike x y hs => hunlike (d :: x) y (by rw [hs]; rfl)) hmore⟩
  | site a covered rest hsome ih =>
    rw [h.replaceSites_site f hsome] at hpre
    by_cases hs : s = []
    · rw [hs]
      exact List.nil_prefix
    · have hcompatible := List.prefix_or_prefix_of_prefix (List.prefix_append (f a covered) _) hpre
      rcases hput a covered rest hsome with hkept | hunlike
      · rw [hkept] at hpre hcompatible
        rcases hcompatible with ⟨s, rfl⟩ | hfront
        · rw [List.prefix_append_right_inj] at hpre ⊢
          exact ih (fun a' covered' rest ha => (hput a' covered' rest ha).imp_right
            fun hunlike x y hs => hunlike (covered ++ x) y (by rw [hs, List.append_assoc])) hpre
        · exact hfront.trans (List.prefix_append covered rest)
      · exact (hcompatible.elim (hunlike [] s rfl hs).1 (hunlike [] s rfl hs).2).elim

end Forward

end Multidialect.Text
