import Multidialect.Text.Basic

/-! # Sites

A rule that changes a text looks for its sites from left to right. At each place a matcher sees what
stands before, last character first, and what follows; a site covers a number of characters, and the
search goes on behind it. A site may cover nothing, but not directly behind another site.

* `pieces`: the text cut into sites and the characters between them.
* `flatMap_source_pieces`: the pieces make up the text.
* `replaceSites`: the text with every site replaced and all else as it was.
-/

namespace Multidialect.Text

/-- Looks for a site at one place of a text: given the characters before the place, last one first,
and the characters from the place on, it answers with what it found and the number of characters
covered. -/
abbrev Matcher (α : Type) := (before after : Text) → Option (α × Nat)

/-- A piece of a text in which sites were looked for. -/
inductive Piece (α : Type) where
  | plain (c : Char)
  | site (found : α) (covered : Text)
  deriving Repr

namespace Piece

variable {α : Type}

/-- The characters of a piece. -/
def source : Piece α → Text
  | .plain c => [c]
  | .site _ covered => covered

/-- What was found, if the piece is a site. -/
def found? : Piece α → Option α
  | .plain _ => none
  | .site a _ => some a

/-- The piece with `f` applied to a site. -/
def edit (f : α → Text → Text) : Piece α → Text
  | .plain c => [c]
  | .site a covered => f a covered

end Piece

variable {α : Type}

/-- The pieces of a text that follows `before`, of which the first `skip` characters are covered by
the last site; `closed` tells that a site ends here. -/
def piecesFrom (m : Matcher α) (before : Text) (closed : Bool) (skip : Nat) : Text → List (Piece α)
  | [] =>
    match skip, closed, m before [] with
    | 0, false, some (a, _) => [.site a []]
    | _, _, _ => []
  | c :: cs =>
    match skip with
    | skip + 1 => piecesFrom m (c :: before) (skip == 0) skip cs
    | 0 =>
      match m before (c :: cs) with
      | none => .plain c :: piecesFrom m (c :: before) false 0 cs
      | some (a, 0) =>
        (if closed then [] else [.site a []]) ++ .plain c :: piecesFrom m (c :: before) false 0 cs
      | some (a, n + 1) =>
        .site a ((c :: cs).take (n + 1)) :: piecesFrom m (c :: before) (n == 0) n cs

/-- A text cut into the sites of a matcher and the characters between them. -/
def pieces (m : Matcher α) (t : Text) : List (Piece α) := piecesFrom m [] false 0 t

/-- What a matcher finds in a text, from left to right. -/
def sites (m : Matcher α) (t : Text) : List α := (pieces m t).filterMap Piece.found?

/-- The text with each site replaced. -/
def replaceSites (m : Matcher α) (f : α → Text → Text) (t : Text) : Text :=
  (pieces m t).flatMap (Piece.edit f)

/-- The ways to take a run of white space off the front of a text, longest first; taking nothing is
the last. -/
def blankSplits : Text → List (Text × Text)
  | [] => [([], [])]
  | c :: cs =>
    if isBlank c then (blankSplits cs).map (fun (ws, rest) => (c :: ws, rest)) ++ [([], c :: cs)]
    else [([], c :: cs)]

/-- Whether a word starts or ends between what stands before a place and what follows it. -/
def atWordBoundary (before after : Text) : Bool :=
  (before.head?.any isWordChar) != (after.head?.any isWordChar)

/-- A text `word` where a word starts or ends. -/
def wordSite (word : Text) : Matcher Unit := fun before after =>
  if atWordBoundary before after && word.isPrefixOf after then some ((), word.length) else none

/-- The text with `word` exchanged for `other` where a word starts or ends. -/
def exchangeWord (word other t : Text) : Text := replaceSites (wordSite word) (fun _ _ => other) t

/-! ## Lemmas -/

theorem flatMap_source_piecesFrom (m : Matcher α) (before : Text) (closed : Bool) (skip : Nat)
    (t : Text) : (piecesFrom m before closed skip t).flatMap Piece.source = t.drop skip := by
  induction t generalizing before closed skip with
  | nil =>
    simp only [piecesFrom]
    split <;> simp [Piece.source]
  | cons c cs ih =>
    simp only [piecesFrom]
    split
    · simp [ih]
    · split
      · simp [Piece.source, ih]
      · split <;> simp [Piece.source, ih]
      · simp [Piece.source, ih]

/-- **The pieces make up the text.** -/
theorem flatMap_source_pieces (m : Matcher α) (t : Text) :
    (pieces m t).flatMap Piece.source = t := flatMap_source_piecesFrom m [] false 0 t

/-- Replacing every site by what it covers changes nothing. -/
theorem replaceSites_covered (m : Matcher α) (t : Text) :
    replaceSites m (fun _ covered => covered) t = t := by
  have h : (Piece.edit fun (_ : α) covered => covered) = Piece.source := by
    funext p; cases p <;> rfl
  rw [replaceSites, h, flatMap_source_pieces]

theorem append_of_mem_blankSplits {t ws rest : Text} (h : (ws, rest) ∈ blankSplits t) :
    t = ws ++ rest := by
  induction t generalizing ws with
  | nil => simp_all [blankSplits]
  | cons c cs ih =>
    simp only [blankSplits] at h
    split at h
    · simp only [List.mem_append, List.mem_map, List.mem_singleton, Prod.mk.injEq] at h
      rcases h with ⟨⟨w, r⟩, hm, rfl, rfl⟩ | ⟨rfl, rfl⟩
      · simp [ih hm]
      · rfl
    · simp_all

end Multidialect.Text
