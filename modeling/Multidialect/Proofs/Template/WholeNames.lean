import Multidialect.Manifest.Name
import Multidialect.Proofs.Template.Injection
import Multidialect.Proofs.Template.Operands
import Multidialect.Template.Session
import Mathlib.Data.List.TakeWhile

/-! # Whole names

Parameters are put behind a name where a word starts or ends next to it. An identifier may hold `$`,
which is no part of a word, so this is not where the name is a whole identifier: next to the name the
two agree exactly if both or neither of the characters there are `$` (`boundary_before_iff`,
`boundary_behind_iff`). From this it is read off for each of the rules at which occurrences it does
what it should (`Generics.names_whole_iff`): the builder is also found behind a keyword, and an
annotation is looked at from behind the name, up to the last `:` in front (`lookFrom`).
-/

namespace Multidialect

namespace Text

/-! ## Words and identifiers -/

/-- All of an identifier is part of a word, but `$`. -/
theorem isWordChar_iff {c : Char} (hc : isIdentifierChar c = true) :
    isWordChar c = true ↔ c ≠ '$' := by
  constructor
  · rintro h rfl
    exact absurd h (by decide)
  · intro h
    simpa [isIdentifierChar, Unicode.isIdentifierChar, h] using hc

theorem not_isWordChar_of_foreign {c : Char} (hc : isIdentifierChar c = false) :
    isWordChar c = false := (Bool.or_eq_false_iff.1 hc).1

/-- Next to a character of an identifier, a word starts or ends where the identifier does, unless just
one of the two neighbours is `$`. -/
theorem boundary_iff {c : Char} (hc : isIdentifierChar c = true) (t : Text) :
    ((isWordChar c != t.head?.any isWordChar) = true ↔ isApart t = true) ↔
      (t.head? = some '$' ↔ c = '$') := by
  have hdollar : isWordChar '$' = false := by decide
  have hword := isWordChar_iff hc
  cases t with
  | nil => simp [isApart, hword]
  | cons d t =>
    by_cases hd : d = '$'
    · have hident : isIdentifierChar '$' = true := by decide
      subst hd
      simp [isApart, hident, hdollar, hword]
    · have hident : isIdentifierChar d = isWordChar d := by
        simp [isIdentifierChar, Unicode.isIdentifierChar, hd]
      simp only [isApart, List.head?_cons, Option.any_some, hident, Option.some.injEq, hd, false_iff]
      rw [← ne_eq, ← hword]
      cases isWordChar c <;> cases isWordChar d <;> simp

variable {name : Text}

theorem boundary_before_iff (hname : IsWhole name) (before : Text) :
    (atWordBoundary before name = true ↔ isApart before = true) ↔
      (before.head? = some '$' ↔ name.head? = some '$') := by
  obtain ⟨c, name, rfl⟩ := List.exists_cons_of_ne_nil hname.ne_nil
  rw [atWordBoundary, bne_comm]
  simpa using boundary_iff (hname.identifier c (.head _)) before

theorem boundary_behind_iff (hname : IsWhole name) (before after : Text) :
    (atWordBoundary (name.reverse ++ before) after = true ↔ isApart after = true) ↔
      (after.head? = some '$' ↔ name.getLast? = some '$') := by
  obtain ⟨c, l, hlast⟩ := List.exists_cons_of_ne_nil hname.reverse.ne_nil
  have hc : isIdentifierChar c = true := hname.reverse.identifier c (by simp [hlast])
  rw [atWordBoundary, ← List.head?_reverse, hlast]
  simpa using boundary_iff hc after

/-! ## Searches for what starts with a mark -/

variable {α : Type} {d : Char} {m : Matcher α}

/-- All that is found starts with `d`, which it holds nowhere else. -/
def StartsAt (d : Char) (m : Matcher α) : Prop :=
  ∀ before after a n, m before after = some (a, n) →
    ∃ l rest, after = d :: l ++ rest ∧ n = (d :: l).length ∧ d ∉ l

/-- What is found at the last `d`, if it ends here. -/
def lookFrom (d : Char) (m : Matcher α) (before after : Text) : Option α :=
  match before.dropWhile (· != d) with
  | [] => none
  | _ :: front =>
    let covered := d :: (before.takeWhile (· != d)).reverse
    (m front (covered ++ after)).bind fun x => if x.2 = covered.length then some x.1 else none

/-- The number of characters from the last `d` on. -/
def reachFrom (d : Char) (before : Text) : Nat := (before.takeWhile (· != d)).length + 1

theorem takeWhile_of_mark {l : Text} (hl : d ∉ l) (front : Text) :
    (l.reverse ++ d :: front).takeWhile (· != d) = l.reverse ∧
      (l.reverse ++ d :: front).dropWhile (· != d) = d :: front := by
  refine takeWhile_of_run (fun c hc => ?_) (by simp)
  have hne : c ≠ d := by
    rintro rfl
    exact hl (List.mem_reverse.1 hc)
  simpa using hne

theorem reachFrom_mark {l : Text} (hl : d ∉ l) (front : Text) :
    reachFrom d (l.reverse ++ d :: front) = (d :: l).length := by
  rw [reachFrom, (takeWhile_of_mark hl front).1]
  simp

theorem lookFrom_mark {l : Text} (hl : d ∉ l) {front after : Text} {a : α} :
    lookFrom d m (l.reverse ++ d :: front) after = some a ↔
      m front (d :: l ++ after) = some (a, (d :: l).length) := by
  obtain ⟨htake, hdrop⟩ := takeWhile_of_mark hl front
  simp only [lookFrom, hdrop, htake, List.reverse_reverse]
  constructor
  · intro h
    obtain ⟨⟨b, n⟩, hfound, h⟩ := Option.bind_eq_some_iff.1 h
    split at h
    · rename_i hn
      rw [hfound]
      exact congrArg some (Prod.ext (Option.some.inj h) hn)
    · cases h
  · intro h
    rw [h, Option.bind_some, if_pos rfl]

theorem lookFrom_eq_some {before after : Text} {a : α} :
    lookFrom d m before after = some a ↔ ∃ l front, before = l.reverse ++ d :: front ∧ d ∉ l ∧
      m front (d :: l ++ after) = some (a, (d :: l).length) := by
  constructor
  · intro h
    have hmem : d ∈ before := by
      by_contra hnot
      have hdrop : before.dropWhile (· != d) = [] := by
        refine List.dropWhile_eq_nil_iff.2 fun c hc => ?_
        simpa using fun he : c = d => hnot (he ▸ hc)
      rw [lookFrom, hdrop] at h
      cases h
    obtain ⟨l, front, rfl, hl⟩ := List.eq_append_cons_of_mem hmem
    rw [← List.reverse_reverse l, lookFrom_mark (by simpa using hl)] at h
    exact ⟨l.reverse, front, by simp, by simpa using hl, h⟩
  · rintro ⟨l, front, rfl, hl, hfound⟩
    exact (lookFrom_mark hl).2 hfound

/-- **A search for what starts with a mark** finds what looking back to the last mark finds. -/
theorem places_lookFrom (h : StartsAt d m) : Places m (lookFrom d m) (reachFrom d) where
  sound := by
    intro before after a n hfound
    obtain ⟨l, rest, rfl, rfl, hl⟩ := h before after a n hfound
    have hback : (d :: l).reverse ++ before = l.reverse ++ d :: before := by simp
    rw [List.take_left, List.drop_left, hback, reachFrom_mark hl, (lookFrom_mark hl).2 hfound]
    exact ⟨Nat.succ_pos _, by simp, rfl, Nat.le_refl _⟩
  complete := by
    intro before u v a hlook hreach
    obtain ⟨l, front, hback, hl, hfound⟩ := lookFrom_eq_some.1 hlook
    rw [hback, reachFrom_mark hl] at hreach
    have hsame : u.reverse ++ before = (d :: l).reverse ++ front := by simp [hback]
    obtain ⟨rfl, rfl⟩ := front_unique hsame hreach.symm
    exact hfound
  bounded := by
    intro before after hlook
    obtain ⟨a, hlook⟩ := Option.isSome_iff_exists.1 hlook
    obtain ⟨l, front, rfl, hl, -⟩ := lookFrom_eq_some.1 hlook
    rw [reachFrom_mark hl]
    exact ⟨Nat.succ_pos _, by simp⟩
  separate := by
    intro before u v hfirst hlast hu
    obtain ⟨a, hfirst⟩ := Option.isSome_iff_exists.1 hfirst
    obtain ⟨b, hlast⟩ := Option.isSome_iff_exists.1 hlast
    obtain ⟨l, front, rfl, hl, hfound⟩ := lookFrom_eq_some.1 hfirst
    by_cases hm : d ∈ u.reverse
    · -- What is found later starts with a mark in `u`.
      obtain ⟨x, y, hsplit, hx⟩ := List.eq_append_cons_of_mem hm
      have hlen : x.length + (y.length + 1) = u.length := by
        rw [← u.length_reverse, hsplit, List.length_append, List.length_cons]
      have hback : u.reverse ++ (l.reverse ++ d :: front) =
          x.reverse.reverse ++ d :: (y ++ (l.reverse ++ d :: front)) := by simp [hsplit]
      rw [hback, reachFrom_mark (by simpa using hx), List.length_cons, List.length_reverse]
      omega
    · -- Both would start with the same mark, but one thing is found there.
      have hlu : d ∉ l ++ u := by simpa [hl] using hm
      have hback : u.reverse ++ (l.reverse ++ d :: front) = (l ++ u).reverse ++ d :: front := by simp
      rw [hback, lookFrom_mark hlu] at hlast
      have hsplit : d :: (l ++ u) ++ v = d :: l ++ (u ++ v) := by simp
      rw [hsplit, hfound] at hlast
      have hlen := (Prod.mk.inj (Option.some.inj hlast)).2
      have hpos := List.length_pos_of_ne_nil hu
      simp only [List.length_cons, List.length_append] at hlen
      omega

end Text

/-! ## Annotations -/

namespace Session

open Text

variable {session : Text}

theorem exists_of_argumentsStart? {t more : Text} (h : argumentsStart? t = some more) :
    ∃ ws rest, t = ws ++ '<' :: rest ∧ (∀ c ∈ ws, isBlank c = true) ∧ more = ws ++ ['<'] := by
  unfold argumentsStart? at h
  split at h
  · rename_i rest hrest
    refine ⟨t.takeWhile isBlank, rest, ?_, all_takeWhile, (Option.some.inj h).symm⟩
    rw [← hrest, takeWhile_append_trimStart]
  · cases h

/-- `:`, white space and the name, which ends where a word starts or ends. -/
structure IsAnnotation (session before after ws rest : Text) : Prop where
  blank : ∀ c ∈ ws, isBlank c = true
  split : after = ':' :: (ws ++ session) ++ rest
  bound : atWordBoundary ((':' :: (ws ++ session)).reverse ++ before) rest = true

/-- What is found of an annotation. -/
def found (session ws rest : Text) : Bool × Nat :=
  match argumentsStart? rest with
  | some more => (true, (':' :: (ws ++ session)).length + more.length)
  | none => (false, (':' :: (ws ++ session)).length)

theorem IsAnnotation.unique (hsession : IsWhole session) {before after ws rest ws' rest' : Text}
    (h : IsAnnotation session before after ws rest)
    (h' : IsAnnotation session before after ws' rest') : ws = ws' ∧ rest = rest' := by
  have hsplit := h.split.symm.trans h'.split
  rw [List.cons_append, List.cons_append, List.append_assoc, List.append_assoc] at hsplit
  obtain ⟨hws, hrest⟩ := run_unique (List.cons.inj hsplit).2 h.blank (hsession.head_not_blank _)
    h'.blank (hsession.head_not_blank _)
  exact ⟨hws, List.append_cancel_left hrest⟩

theorem isAnnotation_of_site {before after : Text} {x : Bool × Nat}
    (h : site session before after = some x) :
    ∃ ws rest, IsAnnotation session before after ws rest ∧ x = found session ws rest := by
  unfold site at h
  split at h
  · obtain ⟨⟨ws, tail⟩, hws, h⟩ := List.exists_of_findSome?_eq_some h
    obtain ⟨rest, hrest, h⟩ := Option.bind_eq_some_iff.1 h
    dsimp only at h
    split at h
    · rename_i hbound
      refine ⟨ws, rest, ⟨isBlank_of_mem_blankSplits hws, ?_, hbound⟩, ?_⟩
      · rw [append_of_mem_blankSplits hws, stripStart?_eq_some.1 hrest]
        simp
      · rw [found]
        cases hmore : argumentsStart? rest with
        | some more =>
          rw [hmore] at h
          exact (Option.some.inj h).symm
        | none =>
          rw [hmore] at h
          exact (Option.some.inj h).symm
    · cases h
  · cases h

theorem site_eq_some (hsession : IsWhole session) {before after : Text} {x : Bool × Nat} :
    site session before after = some x ↔
      ∃ ws rest, IsAnnotation session before after ws rest ∧ x = found session ws rest := by
  constructor
  · exact isAnnotation_of_site
  · rintro ⟨ws, rest, h, rfl⟩
    have hsome : (site session before after).isSome := by
      rw [h.split]
      refine List.findSome?_isSome_iff.2 ⟨(ws, session ++ rest), ?_, ?_⟩
      · show (ws, session ++ rest) ∈ blankSplits ((ws ++ session) ++ rest)
        rw [List.append_assoc]
        exact mem_blankSplits h.blank
      · have hbound : atWordBoundary ((':' :: ws ++ session).reverse ++ before) rest = true := h.bound
        simp only [stripStart?_eq_some.2 rfl, Option.bind_eq_bind, Option.bind_some, if_pos hbound]
        split <;> rfl
    obtain ⟨y, hy⟩ := Option.isSome_iff_exists.1 hsome
    obtain ⟨ws', rest', h', rfl⟩ := isAnnotation_of_site hy
    obtain ⟨rfl, rfl⟩ := h.unique hsession h'
    exact hy

theorem colon_notMem (hsession : IsWhole session) {ws : Text} (hws : ∀ c ∈ ws, isBlank c = true) :
    ':' ∉ ws ++ session := by
  rw [List.mem_append, not_or]
  exact ⟨fun hm => ne_of_isBlank (hws _ hm) (by decide) rfl, hsession.notMem (by decide)⟩

theorem startsAt_site (hsession : IsWhole session) : StartsAt ':' (site session) := by
  intro before after b n h
  obtain ⟨ws, rest, hsite, hfound⟩ := (site_eq_some hsession).1 h
  have hcolon := colon_notMem hsession hsite.blank
  rw [found] at hfound
  split at hfound
  · rename_i more hmore
    obtain ⟨ws', rest', rfl, hws', rfl⟩ := exists_of_argumentsStart? hmore
    refine ⟨ws ++ session ++ (ws' ++ ['<']), rest', by simp [hsite.split], ?_, ?_⟩
    · rw [(Prod.mk.inj hfound).2]
      simp only [List.length_cons, List.length_append]
      omega
    · rw [List.mem_append, not_or]
      refine ⟨hcolon, ?_⟩
      rw [List.mem_append, not_or]
      exact ⟨fun hm => ne_of_isBlank (hws' _ hm) (by decide) rfl, by decide⟩
  · exact ⟨ws ++ session, rest, hsite.split, (Prod.mk.inj hfound).2, hcolon⟩

/-- Whether an annotation ends here that has no type arguments. -/
def bare? (session before after : Text) : Option Unit :=
  (stripStart? session.reverse before).bind fun back =>
    if (trimStart back).head? = some ':' ∧ atWordBoundary before after = true ∧
      (trimStart after).head? ≠ some '<' then some () else none

theorem bare?_eq_some {before after : Text} {k : Unit} :
    bare? session before after = some k ↔ ∃ back, before = session.reverse ++ back ∧
      (trimStart back).head? = some ':' ∧ atWordBoundary before after = true ∧
        (trimStart after).head? ≠ some '<' := by
  constructor
  · intro h
    obtain ⟨back, hback, h⟩ := Option.bind_eq_some_iff.1 h
    split at h
    · rename_i hall
      exact ⟨back, stripStart?_eq_some.1 hback, hall⟩
    · cases h
  · rintro ⟨back, rfl, hall⟩
    rw [bare?, stripStart?_eq_some.2 rfl, Option.bind_some, if_pos hall]

theorem argumentsStart?_eq_none {t : Text} :
    argumentsStart? t = none ↔ (trimStart t).head? ≠ some '<' := by
  unfold argumentsStart?
  split
  · rename_i rest hrest
    simp [hrest]
  · rename_i hrest
    simp only [true_iff]
    intro hhead
    obtain ⟨rest, he⟩ := List.head?_eq_some_iff.1 hhead
    exact hrest rest he

/-- An annotation without type arguments is found from the last `:` on. -/
theorem lookFrom_iff_bare? (hsession : IsWhole session) (before after : Text) :
    lookFrom ':' (site session) before after = some false ↔
      bare? session before after = some () := by
  have hsplit : ∀ ws front : Text, (ws ++ session).reverse ++ ':' :: front =
      session.reverse ++ (ws.reverse ++ ':' :: front) := by simp
  rw [lookFrom_eq_some, bare?_eq_some]
  constructor
  · rintro ⟨l, front, rfl, -, hfound⟩
    obtain ⟨ws, rest, h, hbare⟩ := (site_eq_some hsession).1 hfound
    rw [found] at hbare
    split at hbare
    · cases (Prod.mk.inj hbare).1
    · rename_i hnone
      have hlen : l.length = (ws ++ session).length :=
        Nat.succ.inj (Prod.mk.inj hbare).2
      obtain ⟨rfl, rfl⟩ := List.append_inj (List.cons.inj h.split).2 hlen
      have hbound := h.bound
      rw [List.reverse_cons, List.append_assoc, List.singleton_append] at hbound
      refine ⟨ws.reverse ++ ':' :: front, hsplit ws front, ?_, hbound, argumentsStart?_eq_none.1 hnone⟩
      rw [trimStart, (takeWhile_of_run (by simpa using h.blank) (by simp; decide)).2]
      rfl
  · rintro ⟨back, rfl, hcolon, hbound, hnone⟩
    obtain ⟨front, hfront⟩ := List.head?_eq_some_iff.1 hcolon
    have hback : back = (back.takeWhile isBlank).reverse.reverse ++ ':' :: front := by
      rw [List.reverse_reverse, ← hfront, takeWhile_append_trimStart]
    have hws : ∀ c ∈ (back.takeWhile isBlank).reverse, isBlank c = true :=
      fun c hc => all_takeWhile c (List.mem_reverse.1 hc)
    rw [hback, ← hsplit] at hbound ⊢
    generalize (back.takeWhile isBlank).reverse = ws at hws hbound ⊢
    refine ⟨ws ++ session, front, rfl, colon_notMem hsession hws, ?_⟩
    refine (site_eq_some hsession).2 ⟨ws, after, ⟨hws, rfl, ?_⟩, ?_⟩
    · simpa using hbound
    · rw [found, argumentsStart?_eq_none.2 hnone]

/-- **Parameters are added** where an annotation ends that has none. -/
theorem addParams_eq (hsession : IsWhole session) (params t : Text) :
    addParams session params t =
      withInsertions (fun _ => '<' :: params ++ ['>']) (annotate (bare? session) [] t) := by
  let new : Bool → Text := fun hasArguments => if hasArguments then [] else '<' :: params ++ ['>']
  have hedit : (fun (hasArguments : Bool) covered =>
      if hasArguments then covered else covered ++ '<' :: params ++ ['>']) =
        fun hasArguments covered => covered ++ new hasArguments := by
    funext hasArguments covered
    cases hasArguments <;> simp [new]
  have hlook : bare? session = fun before after =>
      (lookFrom ':' (site session) before after).bind fun b => if b then none else some () := by
    funext before after
    refine Option.ext fun k => ?_
    rw [← lookFrom_iff_bare? hsession]
    cases lookFrom ':' (site session) before after with
    | none => simp
    | some b => cases b <;> simp
  have hmarks := map_annotate (fun o : Option Bool => o.bind fun b => if b then none else some ())
    (lookFrom ':' (site session)) [] t
  rw [addParams, hedit, (places_lookFrom (startsAt_site hsession)).replaceSites_eq_withInsertions,
    hlook, ← hmarks, withInsertions, withInsertions, List.flatMap_map]
  refine List.flatMap_congr fun mark _ => ?_
  obtain ⟨c, o⟩ := mark
  cases o with
  | none => rfl
  | some b => cases b <;> rfl

end Session

/-! ## Where names are found -/

namespace Generics

open Text

variable {name : Text}

/-- What looking back finds of the builder. -/
def openingAt? (name before after : Text) : Option Opening :=
  (lookBack (openingKind? name) before after).map fun x => ⟨x.1, x.2⟩

/-- What looking back finds of a query type. -/
def usageAt? (name before after : Text) : Option Text :=
  (lookBack (usageKind? name) before after).map (·.2)

/-- What is put into a list of the builder. -/
def Opening.inserted (p : TypeParams) (o : Opening) : Text :=
  (if o.declared then p.code else p.permissive) ++ separator o.blanks

theorem injectBuilder_eq_withInsertions (hname : IsWhole name) (p : TypeParams) (t : Text) :
    injectBuilder name p t = withInsertions (Opening.inserted p) (annotate (openingAt? name) [] t) := by
  have hedit : (fun (o : Opening) covered =>
      covered ++ (if o.declared then p.code else p.permissive) ++ separator o.blanks) =
        fun o covered => covered ++ o.inserted p := by
    funext o covered
    rw [Opening.inserted, List.append_assoc]
  rw [injectBuilder, hedit]
  exact (places_openings hname).replaceSites_eq_withInsertions (Opening.inserted p) t

theorem injectQuery_eq_withInsertions (hname : IsWhole name) (p : TypeParams) (t : Text) :
    injectQuery name p t =
      withInsertions (fun blanks => p.arguments ++ separator blanks) (annotate (usageAt? name) [] t) := by
  have hedit : (fun blanks covered => covered ++ p.arguments ++ separator blanks) =
      fun blanks covered : Text => covered ++ (p.arguments ++ separator blanks) := by
    funext blanks covered
    rw [List.append_assoc]
  rw [injectQuery, hedit]
  exact (places_usages hname).replaceSites_eq_withInsertions _ t

/-- A list of `name` starts between `before` and `after`, and its white space ends between `front` and
`rest`. What stands in front of a place is given last character first. -/
structure ListOf (name front rest before after : Text) : Prop where
  opened : ∃ blanks, (∀ c ∈ blanks, isBlank c = true) ∧ after = '<' :: blanks ++ rest ∧
    front = blanks.reverse ++ '<' :: (name.reverse ++ before)
  ends : rest.head?.any isBlank = false

/-- An annotation with `name`, without type arguments, ends between `front` and `rest`. -/
structure AnnotationOf (name front rest before after : Text) : Prop where
  front : front = name.reverse ++ before
  rest : rest = after
  colon : (trimStart before).head? = some ':'
  bare : (trimStart after).head? ≠ some '<'

/-- What is found are occurrences, and at an occurrence where `P` holds, and at no other one, something
is found exactly if the name is a whole identifier there. -/
structure FindsWhole (found : Text → Text → Bool) (occurs : Text → Text → Text → Text → Prop)
    (P : Text → Text → Prop) : Prop where
  only : ∀ front rest, found front rest = true → ∃ before after, occurs front rest before after
  whole_iff : ∀ front rest before after, occurs front rest before after →
    ((found front rest = true ↔ isApart before = true ∧ isApart after = true) ↔ P before after)

section Lists

variable {κ : Type} {kind : Text → Option κ} {front rest before after : Text}

theorem ListOf.lookBack_isSome (h : ListOf name front rest before after) :
    (lookBack kind front rest).isSome = (kind (name.reverse ++ before)).isSome := by
  obtain ⟨⟨blanks, hblanks, -, rfl⟩, hrest⟩ := h
  have hopened : opened? (blanks.reverse ++ '<' :: (name.reverse ++ before)) = some (_, blanks) :=
    opened?_eq_some.2 ⟨rfl, hblanks⟩
  rw [lookBack, hrest, hopened]
  cases hk : kind (name.reverse ++ before) <;> simp [hk]

theorem exists_listOf (hkind : ∀ back, (kind back).isSome → ∃ before, back = name.reverse ++ before)
    (h : (lookBack kind front rest).isSome) : ∃ before after, ListOf name front rest before after := by
  obtain ⟨⟨k, blanks⟩, hfound⟩ := Option.isSome_iff_exists.1 h
  obtain ⟨hrest, hblanks, back, rfl, hk⟩ := lookBack_eq_some.1 hfound
  obtain ⟨before, rfl⟩ := hkind back (Option.isSome_of_mem hk)
  exact ⟨before, _, ⟨blanks, hblanks, rfl, rfl⟩, hrest⟩

/-- Behind a name in front of `<` the identifier ends. -/
theorem ListOf.isApart_after (h : ListOf name front rest before after) : isApart after = true := by
  obtain ⟨⟨blanks, -, rfl, -⟩, -⟩ := h
  exact isApart_of_foreign (by decide)

end Lists

/-- **Query types** are found where they are whole identifiers, unless just one of the character in
front and the first one of the name is `$`. -/
theorem findsWhole_usages (hname : IsWhole name) :
    FindsWhole (fun front rest => (usageAt? name front rest).isSome) (ListOf name)
      (fun before _ => before.head? = some '$' ↔ name.head? = some '$') where
  only := by
    intro front rest h
    rw [usageAt?, Option.isSome_map] at h
    refine exists_listOf (fun back hback => ?_) h
    obtain ⟨k, hk⟩ := Option.isSome_iff_exists.1 hback
    obtain ⟨before, hbefore, -⟩ := usageKind?_eq_some.1 hk
    exact ⟨before, hbefore⟩
  whole_iff := by
    intro front rest before after h
    have hfound : (usageKind? name (name.reverse ++ before)).isSome = atWordBoundary before name := by
      rw [usageKind?, stripStart?_eq_some.2 rfl, Option.bind_some]
      cases atWordBoundary before name <;> rfl
    rw [usageAt?, Option.isSome_map, h.lookBack_isSome, hfound, h.isApart_after,
      ← boundary_before_iff hname]
    simp

theorem isApart_of_declares {before : Text} (h : declares before = true) : isApart before = true := by
  obtain ⟨keyword, ws, front, -, hne, hws, -, rfl⟩ := declares_iff.1 h
  rw [List.reverse_append, List.append_assoc]
  exact isApart_of_blank (by simpa using hne) (fun c hc => hws c (List.mem_reverse.1 hc)) _

/-- **The builder** is found like a query type, and where it is declared. -/
theorem findsWhole_openings (hname : IsWhole name) :
    FindsWhole (fun front rest => (openingAt? name front rest).isSome) (ListOf name)
      (fun before _ =>
        (before.head? = some '$' ↔ name.head? = some '$') ∨ declares before = true) where
  only := by
    intro front rest h
    rw [openingAt?, Option.isSome_map] at h
    refine exists_listOf (fun back hback => ?_) h
    obtain ⟨k, hk⟩ := Option.isSome_iff_exists.1 hback
    obtain ⟨before, hbefore, -⟩ := exists_of_openingKind? hk
    exact ⟨before, hbefore⟩
  whole_iff := by
    intro front rest before after h
    rw [openingAt?, Option.isSome_map, h.lookBack_isSome, openingKind?_append, h.isApart_after,
      ← boundary_before_iff hname]
    cases hdeclares : declares before with
    | true => simp [isApart_of_declares hdeclares]
    | false => cases atWordBoundary before name <;> simp

theorem isApart_of_colon {before : Text} (h : (trimStart before).head? = some ':') :
    isApart before = true := by
  cases before with
  | nil => rfl
  | cons c before =>
    by_cases hc : isBlank c = true
    · have hblank : ∀ d ∈ [c], isBlank d = true := by simpa using hc
      exact isApart_of_blank (List.cons_ne_nil c []) hblank before
    · rw [trimStart, List.dropWhile_cons, if_neg hc] at h
      obtain rfl := Option.some.inj h
      exact isApart_of_foreign (by decide)

/-- **Session types** are found where they are whole identifiers, unless just one of the character
behind and the last one of the name is `$`. -/
theorem findsWhole_annotations (hname : IsWhole name) :
    FindsWhole (fun front rest => (Session.bare? name front rest).isSome) (AnnotationOf name)
      (fun _ after => after.head? = some '$' ↔ name.getLast? = some '$') where
  only := by
    intro front rest h
    obtain ⟨k, hk⟩ := Option.isSome_iff_exists.1 h
    obtain ⟨before, hfront, hcolon, -, hbare⟩ := Session.bare?_eq_some.1 hk
    exact ⟨before, rest, hfront, rfl, hcolon, hbare⟩
  whole_iff := by
    rintro front rest before after ⟨rfl, rfl, hcolon, hbare⟩
    have hfound : (Session.bare? name (name.reverse ++ before) rest).isSome =
        atWordBoundary (name.reverse ++ before) rest := by
      rw [Session.bare?, stripStart?_eq_some.2 rfl, Option.bind_some]
      simp only [hcolon, hbare, true_and, ne_eq, not_false_eq_true, and_true]
      cases atWordBoundary (name.reverse ++ before) rest <;> rfl
    rw [hfound, isApart_of_colon hcolon, ← boundary_behind_iff hname before]
    simp

/-- **Something is put in behind a name exactly where it is a whole identifier**, at those occurrences
where both or neither of the characters that meet at its end are `$`: the character in front of a list
and the first one of the name, or the one behind an annotation and the last one of the name. A builder
is found behind a keyword in any case. -/
theorem names_whole_iff (hname : NameFault.find? name = none) :
    (∀ types p t, (inject types p t).1 = types.queries.foldl
      (fun t query => injectQuery query.toList p t) (injectBuilder types.builder.toList p t)) ∧
    (∀ p t, injectBuilder name p t =
      withInsertions (Opening.inserted p) (annotate (openingAt? name) [] t)) ∧
    (∀ p t, injectQuery name p t = withInsertions
      (fun blanks => p.arguments ++ separator blanks) (annotate (usageAt? name) [] t)) ∧
    (∀ params t, Session.addParams name params t = withInsertions
      (fun _ => '<' :: params ++ ['>']) (annotate (Session.bare? name) [] t)) ∧
    FindsWhole (fun front rest => (openingAt? name front rest).isSome) (ListOf name)
      (fun before _ =>
        (before.head? = some '$' ↔ name.head? = some '$') ∨ declares before = true) ∧
    FindsWhole (fun front rest => (usageAt? name front rest).isSome) (ListOf name)
      (fun before _ => before.head? = some '$' ↔ name.head? = some '$') ∧
    FindsWhole (fun front rest => (Session.bare? name front rest).isSome) (AnnotationOf name)
      (fun _ after => after.head? = some '$' ↔ name.getLast? = some '$') := by
  have hwhole := NameFault.isWhole hname
  exact ⟨fun types p t => injectQueries_fst p types.queries _,
    injectBuilder_eq_withInsertions hwhole, injectQuery_eq_withInsertions hwhole,
    Session.addParams_eq hwhole, findsWhole_openings hwhole, findsWhole_usages hwhole,
    findsWhole_annotations hwhole⟩

/-- A member is a whole identifier, and something is put in; an identifier that ends with `$` and the
name is none, and something is put in too. -/
theorem names_whole_builder :
    NameFault.find? "Builder".toList = none ∧
      (openingAt? "Builder".toList "x.Builder<".toList.reverse "T>".toList).isSome = true ∧
      ¬ ((openingAt? "Builder".toList "x$Builder<".toList.reverse "T>".toList).isSome = true ↔
        isApart "x$".toList.reverse = true ∧ isApart "<T>".toList = true) := by
  have hname : NameFault.find? "Builder".toList = none := by decide
  obtain ⟨-, -, -, -, hopenings, -, -⟩ := names_whole_iff hname
  have hlist : ∀ lead : Text, ListOf "Builder".toList (lead ++ "Builder<".toList).reverse "T>".toList
      lead.reverse "<T>".toList := fun lead => ⟨⟨[], by simp, by simp, by simp⟩, by decide⟩
  have hmember := (hopenings.whole_iff _ _ _ _ (hlist "x.".toList)).2 (by decide +kernel)
  have hjoined := hopenings.whole_iff _ _ _ _ (hlist "x$".toList)
  exact ⟨hname, hmember.2 (by decide +kernel), fun h => absurd (hjoined.1 h) (by decide +kernel)⟩

/-- **`$` next to a name is overlooked**: parameters are put in behind a part of an identifier, and not
behind a builder whose name starts with `$`. -/
theorem dollar_overlooked :
    NameFault.find? "Builder".toList = none ∧ NameFault.find? "$Builder".toList = none ∧
      NameFault.find? "PgSession".toList = none ∧
      inject ⟨"Builder", [], []⟩ ⟨"A".toList⟩ "let b: x$Builder<T>".toList =
        ("let b: x$Builder<any, T>".toList, ⟨0, 0, 1⟩) ∧
      inject ⟨"$Builder", [], []⟩ ⟨"A".toList⟩ "let b: $Builder<T>".toList =
        ("let b: $Builder<T>".toList, ⟨0, 0, 0⟩) ∧
      Session.addParams "PgSession".toList "X".toList "a: PgSession$".toList =
        "a: PgSession<X>$".toList := by
  decide +kernel

end Generics

end Multidialect
