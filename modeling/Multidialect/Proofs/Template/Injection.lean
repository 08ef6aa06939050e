import Multidialect.Proofs.Template.Openings

/-! # Where type parameters go

The builder and each query type have a pass of their own, over a text that the passes before have
changed. The places where something is put in can still be read off the text as it was before all of
them (`Generics.site?`). What is put in starts no list of another type (`Inert`), and behind it the
text goes on as it would have gone on behind the white space, so a pass finds what it would have found
in the original text (`annotate_withInsertions`). So the passes together put everything in at once
(`injectQueries_eq`, `inject_eq`).
-/

namespace Multidialect

open Unicode (not_isWordChar_of_isBlank)

namespace Text

variable {α γ : Type}

/-! ## The last word and the last opening -/

/-- For a text that ends with a word, `<` and white space: the word and the white space. -/
def openedWord? (before : Text) : Option (Text × Text) :=
  (opened? before).map fun x => (wordBefore x.1, x.2)

theorem openedWord?_cons (c : Char) (before : Text) :
    openedWord? (c :: before) =
      if isBlank c then (openedWord? before).map fun x => (x.1, x.2 ++ [c])
      else if c = '<' then some (wordBefore before, [])
      else none := by
  rw [openedWord?, opened?]
  split
  · cases h : opened? before <;> simp [openedWord?, h]
  · split <;> rfl

/-- Two texts after which `t` is read alike: they end with the same word, and where white space goes
on, with the same opening. -/
structure Alike (before before' t : Text) : Prop where
  word : wordBefore before' = wordBefore before
  opened : t.head?.any isBlank = true → openedWord? before' = openedWord? before

namespace Alike

variable {before before' cs : Text} {c : Char}

theorem openedWord?_eq (h : Alike before before' (c :: cs)) :
    openedWord? (c :: before') = openedWord? (c :: before) := by
  rw [openedWord?_cons, openedWord?_cons]
  by_cases hc : isBlank c = true
  · rw [if_pos hc, if_pos hc, h.opened (by simpa using hc)]
  · rw [if_neg hc, if_neg hc, h.word]

theorem next (h : Alike before before' (c :: cs)) (t : Text) :
    Alike (c :: before) (c :: before') t where
  word := by rw [wordBefore_cons, wordBefore_cons, h.word]
  opened _ := h.openedWord?_eq

end Alike

theorem not_word_of_opened {before back blanks : Text}
    (h : opened? before = some (back, blanks)) : before.head?.any isWordChar = false := by
  obtain ⟨rfl, hblanks⟩ := opened?_eq_some.1 h
  have hbracket : isWordChar '<' = false := by decide
  exact head_not_word_of_blanks (by simpa using hblanks) (by simpa using hbracket)

end Text

open Text

namespace Generics

/-! ## Sites -/

/-- How a list is extended: where the builder is declared, where it is referred to otherwise, and
where a query type is used. -/
inductive SiteKind where
  | declaration
  | reference
  | usage
  deriving DecidableEq, Repr

/-- The parameters that go into a list. -/
def SiteKind.parameters (p : TypeParams) : SiteKind → Text
  | .declaration => p.code
  | .reference => p.permissive
  | .usage => p.arguments

/-- A list that is extended, and the white space behind its `<`. -/
structure Site where
  kind : SiteKind
  blanks : Text
  deriving DecidableEq, Repr

/-- What is put in behind `<` and the white space. -/
def Site.inserted (p : TypeParams) (s : Site) : Text := s.kind.parameters p ++ separator s.blanks

/-- The kind of the list that starts with `<`, for the text in front of it. -/
def kind? (builder : Text) (queries : List Text) (back : Text) : Option SiteKind :=
  if wordBefore back = builder then
    some (if declares (back.dropWhile isWordChar) then .declaration else .reference)
  else if wordBefore back ∈ queries then some .usage
  else none

/-- The list that starts in front of a cut. -/
def site? (builder : Text) (queries : List Text) (before after : Text) : Option Site :=
  (lookBack (kind? builder queries) before after).map fun x => ⟨x.1, x.2⟩

/-- What looking back finds of a query type. -/
def usage? (query before after : Text) : Option Text :=
  (lookBack (queryKind? query) before after).map (·.2)

/-- No list of `name` starts in a text. -/
def StartsNone (name t : Text) : Prop := ∀ u v, t = u ++ '<' :: v → wordBefore u.reverse ≠ name

instance (name t : Text) : Decidable (StartsNone name t) := decidable_of_iff' _ forall_split_iff

/-- A text that may be put in behind `<` and white space as far as the lists of `name` go. -/
structure Inert (name t : Text) : Prop where
  starts : StartsNone name t
  ends : t.reverse.head?.any isWordChar = false

theorem usage?_eq (query before after : Text) :
    usage? query before after =
      if after.head?.any isBlank then none
      else (openedWord? before).bind fun x => if x.1 = query then some x.2 else none := by
  rw [usage?, lookBack, openedWord?]
  split
  · rfl
  · cases opened? before with
    | none => rfl
    | some x =>
      simp only [Option.bind_some, Option.map_some, queryKind?]
      split <;> rfl

theorem usage?_eq_some {query before after blanks : Text}
    (h : usage? query before after = some blanks) :
    ∃ back, before = blanks.reverse ++ '<' :: back ∧ (∀ c ∈ blanks, isBlank c = true) ∧
      wordBefore back = query := by
  obtain ⟨⟨k, blanks'⟩, hlook, rfl⟩ := Option.map_eq_some_iff.1 h
  obtain ⟨-, hblanks, back, hbefore, hk⟩ := lookBack_eq_some.1 hlook
  rw [queryKind?] at hk
  split at hk
  · rename_i hword
    exact ⟨back, hbefore, hblanks, hword⟩
  · cases hk

/-! ## A pass over a changed text -/

variable {query : Text} {α : Type}

theorem annotate_eq_none {look : Text → Text → Option α} {before t : Text}
    (h : ∀ u v, t = u ++ v → u ≠ [] → look (u.reverse ++ before) v = none) :
    annotate look before t = t.map (·, none) := by
  induction t generalizing before with
  | nil => rfl
  | cons c cs ih =>
    have hfirst : look (c :: before) cs = none := h [c] cs rfl (by simp)
    rw [annotate, hfirst, ih, List.map_cons]
    rintro u v rfl hu
    simpa using h (c :: u) v rfl (by simp)

theorem head?_bracket (t : Text) : ('<' :: t).head?.any isBlank = false := by
  have hbracket : isBlank '<' = false := by decide
  simpa using hbracket

/-- No list of the query type is open in what is put in behind a list of another type. -/
theorem Inert.usage?_eq_none {before u v back blanks rest : Text} (hx : Inert query (u ++ v))
    (hopened : opened? before = some (back, blanks)) (hword : wordBefore back ≠ query) :
    usage? query (u.reverse ++ before) rest = none := by
  refine Option.eq_none_iff_forall_ne_some.2 fun blanks' hfound => ?_
  obtain ⟨back', hsplit, hblanks', hquery⟩ := usage?_eq_some hfound
  obtain ⟨hbefore, hblanks⟩ := opened?_eq_some.1 hopened
  have hother : ∀ m : Text, (∀ c ∈ m, isBlank c = true) → ∀ back' : Text, before = m ++ '<' :: back' →
      back' = back := by
    intro m hm back' he
    have hsame := (run_unique (he.symm.trans hbefore) hm (head?_bracket _)
      (fun c hc => hblanks c (List.mem_reverse.1 hc)) (head?_bracket _)).2
    exact (List.cons.inj hsame).2
  -- The `<` is the one in front of what is put in, or it stands in it.
  rcases List.append_eq_append_iff.1 hsplit with ⟨m, hm, hrest⟩ | ⟨m, hm, hrest⟩
  · have hblank : ∀ c ∈ m, isBlank c = true := fun c hc =>
      hblanks' c (List.mem_reverse.1 (hm ▸ List.mem_append_right _ hc))
    exact hword (hother m hblank back' hrest ▸ hquery)
  · cases m with
    | nil => exact hword (hother [] (by simp) back' hrest.symm ▸ hquery)
    | cons d m =>
      obtain ⟨rfl, rfl⟩ := List.cons.inj hrest
      have hu : u = m.reverse ++ '<' :: blanks' := by
        have hrev := congrArg List.reverse hm
        simpa using hrev
      refine hx.starts m.reverse (blanks' ++ v) (by simp [hu]) ?_
      rw [List.reverse_reverse, ← hquery]
      exact (wordBefore_append (not_word_of_opened hopened)).symm

/-- Nothing is found in what is put in. -/
theorem annotate_inert {before x back blanks : Text} (hx : Inert query x)
    (hopened : opened? before = some (back, blanks)) (hword : wordBefore back ≠ query)
    (rest : Text) :
    annotate (usage? query) before (x ++ rest) =
      x.map (·, none) ++ annotate (usage? query) (x.reverse ++ before) rest := by
  rw [annotate_append, annotate_eq_none]
  rintro u v rfl -
  exact hx.usage?_eq_none hopened hword

/-- Behind what is put in the text goes on as behind the white space. -/
theorem Inert.alike {before before' x cs : Text} {found found' : Text × Text} (hx : Inert query x)
    (h : opened? before = some found) (h' : opened? before' = some found')
    (hcs : cs.head?.any isBlank = false) : Alike before (x.reverse ++ before') cs where
  word := by
    rw [wordBefore_append (not_word_of_opened h'), wordBefore_eq_nil hx.ends,
      wordBefore_eq_nil (not_word_of_opened h)]
  opened hblank := by
    rw [hcs] at hblank
    cases hblank

theorem head?_withInsertions (f : α → Text) (look : Text → Text → Option α) (before t : Text) :
    (withInsertions f (annotate look before t)).head? = t.head? := by
  cases t <;> rfl

/-- A character with what a pass finds behind it, and then what a pass before has put in there, in
which nothing is found. -/
def passOver (f : α → Text) (mark : Char × Option α × Option Text) : List (Char × Option Text) :=
  (mark.1, mark.2.2) :: (mark.2.1.elim [] f).map (·, none)

/-- **A pass finds what it would have found in the original text**, if the lists extended before are
those of other types. -/
theorem annotate_withInsertions {look : Text → Text → Option α} {f : α → Text}
    (hlook : ∀ before after a, look before after = some a → after.head?.any isBlank = false ∧
      (∃ back blanks, opened? before = some (back, blanks) ∧ wordBefore back ≠ query) ∧
        Inert query (f a))
    {before before' t : Text} (h : Alike before before' t) :
    annotate (usage? query) before' (withInsertions f (annotate look before t)) =
      (annotate (fun b a => (look b a, usage? query b a)) before t).flatMap (passOver f) := by
  induction t generalizing before before' with
  | nil => rfl
  | cons c cs ih =>
    have hopened := h.openedWord?_eq
    cases hfound : look (c :: before) cs with
    | none =>
      have hhead := head?_withInsertions f look (c :: before) cs
      have hsame : usage? query (c :: before') (withInsertions f (annotate look (c :: before) cs)) =
          usage? query (c :: before) cs := by rw [usage?_eq, usage?_eq, hhead, hopened]
      have hrest := ih (h.next cs)
      simp only [annotate, hfound, withInsertions, List.flatMap_cons, passOver, Option.elim_none,
        List.map_nil, List.cons_append, List.nil_append] at hrest hsame ⊢
      rw [hsame, hrest]
    | some a =>
      obtain ⟨hcs, ⟨back, blanks, hback, hne⟩, hinert⟩ := hlook _ _ _ hfound
      obtain ⟨⟨back', blanks'⟩, hback', hsame⟩ := Option.map_eq_some_iff.1
        (hopened.trans (show openedWord? (c :: before) = _ by rw [openedWord?, hback]; rfl))
      have hne' : wordBefore back' ≠ query := by
        rw [(Prod.mk.inj hsame).1]
        exact hne
      have hnone : usage? query (c :: before) cs = none :=
        Inert.usage?_eq_none (u := []) hinert hback hne
      have hnone' : usage? query (c :: before')
          (f a ++ withInsertions f (annotate look (c :: before) cs)) = none :=
        Inert.usage?_eq_none (u := []) hinert hback' hne'
      have hpass := annotate_inert hinert hback' hne'
        (withInsertions f (annotate look (c :: before) cs))
      have hrest := ih (hinert.alike hback hback' hcs)
      simp only [annotate, hfound, withInsertions, List.flatMap_cons, passOver, Option.elim_some,
        List.cons_append] at hrest hpass hnone' ⊢
      rw [hnone', hpass, hrest, hnone]

/-! ## What is put in -/

theorem StartsNone.append {name a b : Text} (h : StartsNone name a) (hb : '<' ∉ b) :
    StartsNone name (a ++ b) := by
  intro u v he
  rcases List.append_eq_append_iff.1 he with ⟨m, rfl, hm⟩ | ⟨m, rfl, hm⟩
  · exact absurd (hm ▸ List.mem_append_right m (.head _)) hb
  · cases m with
    | nil =>
      rw [List.nil_append] at hm
      exact absurd (hm ▸ List.mem_cons_self) hb
    | cons c m =>
      obtain ⟨rfl, -⟩ := List.cons.inj hm
      exact h u m rfl

theorem startsNone_of_notMem {name t : Text} (h : '<' ∉ t) : StartsNone name t := by
  rintro u v rfl
  simp at h

theorem notMem_join {c : Char} {sep : Text} {ts : List Text} (hsep : c ∉ sep)
    (hts : ∀ t ∈ ts, c ∉ t) : c ∉ join sep ts := by
  induction ts with
  | nil => simp [join]
  | cons t ts ih =>
    cases ts with
    | nil => simpa [join] using hts t (.head _)
    | cons t' ts =>
      have hrest := ih fun x hx => hts x (.tail _ hx)
      rw [join, List.intercalate_cons_cons, List.mem_append, List.mem_append, not_or, not_or]
      exact ⟨⟨hts t (.head _), hsep⟩, hrest⟩

theorem isNameChar_of_mem_parameterNames {code name : Text} (h : name ∈ parameterNames code) :
    name ≠ [] ∧ ∀ c ∈ name, Text.isNameChar c = true := by
  obtain ⟨hm, hne⟩ := List.mem_filter.1 h
  obtain ⟨entry, -, rfl⟩ := List.mem_map.1 hm
  exact ⟨by simpa using hne, all_takeWhile⟩

theorem notMem_arguments (p : TypeParams) : '<' ∉ p.arguments := by
  refine notMem_join (by decide) fun name hname hm => ?_
  have hc := (isNameChar_of_mem_parameterNames hname).2 '<' hm
  revert hc
  decide

theorem notMem_permissive (p : TypeParams) : '<' ∉ p.permissive := by
  refine notMem_join (by decide) fun name hname => ?_
  rw [List.eq_of_mem_replicate hname]
  decide

/-- A separator ends with white space, and holds nothing but a comma in front. -/
theorem separator_eq {blanks : Text} (h : ∀ c ∈ blanks, isBlank c = true) :
    ∃ ws, separator blanks = ',' :: ws ∧ ws ≠ [] ∧ ∀ c ∈ ws, isBlank c = true := by
  rw [separator]
  split
  · exact ⟨[' '], rfl, by simp, List.all_eq_true.1 (by decide)⟩
  · rename_i hne
    exact ⟨blanks, rfl, hne, h⟩

/-- The lists of a name may be looked for after the lists of other names have been extended. -/
theorem Site.inert {p : TypeParams} {s : Site} (hcode : StartsNone query p.code)
    (hblanks : ∀ c ∈ s.blanks, isBlank c = true) : Inert query (s.inserted p) := by
  obtain ⟨ws, hsep, hne, hws⟩ := separator_eq hblanks
  constructor
  · have hparameters : StartsNone query (s.kind.parameters p) := by
      cases s.kind with
      | declaration => exact hcode
      | reference => exact startsNone_of_notMem (notMem_permissive p)
      | usage => exact startsNone_of_notMem (notMem_arguments p)
    refine hparameters.append ?_
    rw [hsep, List.mem_cons, not_or]
    exact ⟨by decide, notMem_of_isBlank hws⟩
  · rw [Site.inserted, hsep, List.reverse_append, List.reverse_cons, List.append_assoc]
    exact head_not_word (by simpa using hne) (fun c hc => hws c (List.mem_reverse.1 hc)) _

/-! ## All passes -/

variable {builder : Text} {queries : List Text} {p : TypeParams}

theorem site?_eq_some {before after : Text} {s : Site}
    (h : site? builder queries before after = some s) :
    after.head?.any isBlank = false ∧ (∀ c ∈ s.blanks, isBlank c = true) ∧
      ∃ back, before = s.blanks.reverse ++ '<' :: back ∧ kind? builder queries back = some s.kind := by
  obtain ⟨⟨k, blanks⟩, hlook, rfl⟩ := Option.map_eq_some_iff.1 h
  exact lookBack_eq_some.1 hlook

theorem wordBefore_mem_of_kind? {back : Text} {k : SiteKind}
    (h : kind? builder queries back = some k) : wordBefore back ∈ builder :: queries := by
  rw [kind?] at h
  split at h
  · rename_i hword
    rw [hword]
    exact .head _
  · split at h
    · rename_i hm
      exact .tail _ hm
    · cases h

/-- One more query type. -/
theorem site?_concat (before after : Text) :
    site? builder (queries ++ [query]) before after =
      (site? builder queries before after).or ((usage? query before after).map (⟨.usage, ·⟩)) := by
  simp only [site?, usage?, lookBack]
  split
  · rfl
  · cases opened? before with
    | none => rfl
    | some x =>
      simp only [Option.bind_some, kind?, queryKind?, List.mem_append, List.mem_singleton]
      by_cases hbuilder : wordBefore x.1 = builder
      · simp [hbuilder]
      · by_cases hm : wordBefore x.1 ∈ queries
        · simp [hbuilder, hm]
        · by_cases hq : wordBefore x.1 = query
          · subst hq
            simp [hbuilder, hm]
          · simp [hbuilder, hm, hq]

/-- No list is one of two names. -/
theorem usage?_eq_none_of_site? (hquery : query ∉ builder :: queries) {before after : Text} {s : Site}
    (h : site? builder queries before after = some s) : usage? query before after = none := by
  obtain ⟨-, hblanks, back, hbefore, hk⟩ := site?_eq_some h
  have hopened : opened? before = some (back, s.blanks) := opened?_eq_some.2 ⟨hbefore, hblanks⟩
  have hword : wordBefore back ≠ query := by
    rintro rfl
    exact hquery (wordBefore_mem_of_kind? hk)
  exact Inert.usage?_eq_none (u := []) (v := []) ⟨startsNone_of_notMem (by simp), rfl⟩ hopened hword

/-- A text that follows `before`, with everything put in for the builder and some query types. -/
def extendedBehind (builder : Text) (queries : List Text) (p : TypeParams) (before t : Text) : Text :=
  withInsertions (Site.inserted p) (annotate (site? builder queries) before t)

/-- The text with everything put in for the builder and some query types. -/
def extended (builder : Text) (queries : List Text) (p : TypeParams) (t : Text) : Text :=
  extendedBehind builder queries p [] t

/-- The pass of a query type over a text that the passes before have changed. -/
theorem annotate_extended (hquery : query ∉ builder :: queries) (hcode : StartsNone query p.code)
    (t : Text) :
    annotate (usage? query) [] (extended builder queries p t) =
      (annotate (fun b a => (site? builder queries b a, usage? query b a)) [] t).flatMap
        (passOver (Site.inserted p)) := by
  refine annotate_withInsertions ?_ ⟨rfl, fun _ => rfl⟩
  intro before after s hs
  obtain ⟨hafter, hblanks, back, hbefore, hk⟩ := site?_eq_some hs
  refine ⟨hafter, ⟨back, s.blanks, opened?_eq_some.2 ⟨hbefore, hblanks⟩, ?_⟩,
    Site.inert hcode hblanks⟩
  rintro rfl
  exact hquery (wordBefore_mem_of_kind? hk)

theorem injectQuery_extended (hname : IsIdentifier query) (hquery : query ∉ builder :: queries)
    (hcode : StartsNone query p.code) (t : Text) :
    injectQuery query p (extended builder queries p t) =
      extended builder (queries ++ [query]) p t := by
  have hedit : (fun blanks covered => covered ++ p.arguments ++ separator blanks) =
      fun blanks covered : Text => covered ++ (Site.mk .usage blanks).inserted p := by
    funext blanks covered
    rw [Site.inserted, SiteKind.parameters, List.append_assoc]
  have hpass := (places_query hname).replaceSites_eq_withInsertions
    (fun blanks => (Site.mk .usage blanks).inserted p) (extended builder queries p t)
  have hsplit := map_annotate
    (fun x : Option Site × Option Text => x.1.or (x.2.map (Site.mk .usage)))
    (fun b a => (site? builder queries b a, usage? query b a)) [] t
  rw [injectQuery, hedit, hpass]
  change withInsertions _ (annotate (usage? query) [] _) = _
  rw [annotate_extended hquery hcode, extended, extendedBehind, funext₂ site?_concat, ← hsplit,
    withInsertions, withInsertions, List.flatMap_assoc, List.flatMap_map]
  have hapart : ∀ mark ∈ annotate (fun b a => (site? builder queries b a, usage? query b a)) [] t,
      ∀ s, mark.2.1 = some s → mark.2.2 = none :=
    forall_annotate (P := fun x : Option Site × Option Text => ∀ s, x.1 = some s → x.2 = none)
      (fun b a s hs => usage?_eq_none_of_site? hquery hs) [] t
  refine List.flatMap_congr fun mark hm => ?_
  obtain ⟨c, s, o⟩ := mark
  cases s with
  | none => cases o <;> simp [passOver]
  | some s =>
    obtain rfl : o = none := hapart _ hm s rfl
    simp [passOver, List.flatMap_map]

/-! ## The numbers of sites -/

/-- The lists of a text that are extended, in order. -/
def listSites (builder : Text) (queries : List Text) (t : Text) : List Site :=
  (annotate (site? builder queries) [] t).filterMap (·.2)

/-- The number of lists of one kind. -/
def tally (k : SiteKind) (ss : List Site) : Nat := ss.countP (·.kind == k)

theorem sites_extended (hname : IsIdentifier query) (hquery : query ∉ builder :: queries)
    (hcode : StartsNone query p.code) (t : Text) :
    sites (querySite query) (extended builder queries p t) =
      (annotate (usage? query) [] t).filterMap (·.2) := by
  have hsplit := map_annotate (fun x : Option Site × Option Text => x.2)
    (fun b a => (site? builder queries b a, usage? query b a)) [] t
  rw [(places_query hname).sites_eq]
  change (annotate (usage? query) [] _).filterMap (·.2) = _
  rw [annotate_extended hquery hcode, List.filterMap_flatMap, ← hsplit, List.filterMap_map,
    List.filterMap_eq_flatMap_toList]
  refine List.flatMap_congr fun mark _ => ?_
  obtain ⟨c, s, o⟩ := mark
  cases o <;> simp [passOver, List.filterMap_map]

theorem tally_usage_concat (hquery : query ∉ builder :: queries) (t : Text) :
    tally .usage (listSites builder (queries ++ [query]) t) =
      ((annotate (usage? query) [] t).filterMap (·.2)).length +
        tally .usage (listSites builder queries t) := by
  rw [tally, tally, listSites, listSites, ← List.countP_true, List.countP_filterMap,
    List.countP_filterMap, List.countP_filterMap]
  generalize ([] : Text) = before
  induction t generalizing before with
  | nil => rfl
  | cons c cs ih =>
    rw [annotate, annotate, annotate, List.countP_cons, List.countP_cons, List.countP_cons, ih,
      site?_concat]
    cases hs : site? builder queries (c :: before) cs with
    | none =>
      cases usage? query (c :: before) cs with
      | none => simp
      | some blanks =>
        simp
        omega
    | some s =>
      rw [usage?_eq_none_of_site? hquery hs]
      simp
      omega

theorem tally_usage_nil (t : Text) : tally .usage (listSites builder [] t) = 0 := by
  refine List.countP_eq_zero.2 fun s hs => ?_
  obtain ⟨mark, hm, hs⟩ := List.mem_filterMap.1 hs
  have hkind : ∀ before after s, site? builder [] before after = some s → s.kind ≠ .usage := by
    intro before after s hs hkind
    obtain ⟨-, -, back, -, hk⟩ := site?_eq_some hs
    rw [hkind, kind?] at hk
    split at hk
    · split at hk <;> cases hk
    · simp at hk
  simpa using forall_annotate (P := fun o => ∀ s, o = some s → s.kind ≠ .usage)
    (fun b a => hkind b a) [] t mark hm s hs

/-! ## What is put in, and how often -/

/-- The names may be told apart, and no list of them starts in the code that is put in. -/
structure Fits (names : List Text) (p : TypeParams) : Prop where
  words : ∀ name ∈ names, IsIdentifier name
  distinct : names.Nodup
  starts : ∀ name ∈ names, StartsNone name p.code

instance (names : List Text) (p : TypeParams) : Decidable (Fits names p) :=
  decidable_of_iff ((∀ name ∈ names, IsIdentifier name) ∧ names.Nodup ∧
    ∀ name ∈ names, StartsNone name p.code)
    ⟨fun h => ⟨h.1, h.2.1, h.2.2⟩, fun h => ⟨h.words, h.distinct, h.starts⟩⟩

theorem injectQueries_extended (t : Text) (rest : List String) (queries : List Text)
    (h : Fits (builder :: (queries ++ rest.map String.toList)) p) :
    (injectQueries p rest (extended builder queries p t)).1 =
        extended builder (queries ++ rest.map String.toList) p t ∧
      (injectQueries p rest (extended builder queries p t)).2 +
          tally .usage (listSites builder queries t) =
        tally .usage (listSites builder (queries ++ rest.map String.toList) t) := by
  induction rest generalizing queries with
  | nil => simp [injectQueries]
  | cons name rest ih =>
    have hmem : name.toList ∈ builder :: (queries ++ (name :: rest).map String.toList) := by simp
    have hquery : name.toList ∉ builder :: queries := by
      have hdistinct := h.distinct
      rw [List.map_cons, ← List.cons_append, List.nodup_append] at hdistinct
      exact fun hm => hdistinct.2.2 _ hm _ (.head _) rfl
    have hstep := injectQuery_extended (h.words _ hmem) hquery (h.starts _ hmem) t
    have hsites := sites_extended (h.words _ hmem) hquery (h.starts _ hmem) t
    have hcount := tally_usage_concat hquery t
    have hlist : queries ++ (name :: rest).map String.toList =
        (queries ++ [name.toList]) ++ rest.map String.toList := by simp
    obtain ⟨htext, hmore⟩ := ih (queries ++ [name.toList]) (hlist ▸ h)
    simp only [injectQueries, hstep, hsites]
    rw [hlist]
    exact ⟨htext, by omega⟩

/-- The site that a list of the builder is. -/
def Opening.site (o : Opening) : Site := ⟨if o.declared then .declaration else .reference, o.blanks⟩

theorem site?_nil (before after : Text) :
    site? builder [] before after =
      ((lookBack (builderKind? builder) before after).map fun x => Opening.mk x.1 x.2).map
        Opening.site := by
  simp only [site?, lookBack]
  split
  · rfl
  · cases opened? before with
    | none => rfl
    | some x =>
      simp only [Option.bind_some, kind?, builderKind?]
      split <;> rfl

theorem injectBuilder_eq (hname : IsIdentifier builder) (t : Text) :
    injectBuilder builder p t = extended builder [] p t := by
  have hedit : (fun (o : Opening) covered =>
      covered ++ (if o.declared then p.code else p.permissive) ++ separator o.blanks) =
        fun o covered => covered ++ o.site.inserted p := by
    funext o covered
    rw [Site.inserted, Opening.site, List.append_assoc]
    split <;> rfl
  have hsites := map_annotate (Option.map Opening.site)
    (fun b a => (lookBack (builderKind? builder) b a).map fun x => Opening.mk x.1 x.2) [] t
  rw [injectBuilder, hedit, (places_builder hname).replaceSites_eq_withInsertions
    (fun o => o.site.inserted p), extended, extendedBehind, funext₂ site?_nil, ← hsites,
    withInsertions, withInsertions, List.flatMap_map]
  refine List.flatMap_congr fun mark _ => ?_
  obtain ⟨c, o⟩ := mark
  cases o <;> rfl

/-- A list is the builder's, if it is extended otherwise than the use of a query type. -/
theorem site?_kind (queries : List Text) {k : SiteKind} (hk : k ≠ .usage) (before after : Text) :
    ((lookBack (builderKind? builder) before after).map fun x => Opening.mk x.1 x.2).any
        (·.site.kind == k) =
      (site? builder queries before after).any (·.kind == k) := by
  have husage : (SiteKind.usage == k) = false := by
    cases k with
    | usage => exact absurd rfl hk
    | declaration => rfl
    | reference => rfl
  simp only [site?, lookBack]
  split
  · rfl
  · cases opened? before with
    | none => rfl
    | some x =>
      simp only [Option.bind_some, kind?, builderKind?]
      split
      · rfl
      · split
        · simp [husage]
        · rfl

/-- The lists of the builder, among those of all names. -/
theorem countP_openings (hname : IsIdentifier builder) (queries : List Text) {k : SiteKind}
    (hk : k ≠ .usage) (t : Text) :
    (sites (builderSite builder) t).countP (·.site.kind == k) =
      tally k (listSites builder queries t) := by
  rw [(places_builder hname).sites_eq]
  exact countP_annotate_congr (site?_kind queries hk) [] t

theorem openings_eq (hname : IsIdentifier builder) (queries : List Text) (t : Text) :
    ((sites (builderSite builder) t).filter (·.declared)).length =
        tally .declaration (listSites builder queries t) ∧
      ((sites (builderSite builder) t).filter (!·.declared)).length =
        tally .reference (listSites builder queries t) := by
  have hdeclared : ∀ o : Opening, o.declared = (o.site.kind == .declaration) := by
    intro o
    rw [Opening.site]
    cases o.declared <;> rfl
  have hreferred : ∀ o : Opening, (!o.declared) = (o.site.kind == .reference) := by
    intro o
    rw [Opening.site]
    cases o.declared <;> rfl
  constructor
  · rw [← List.countP_eq_length_filter, funext hdeclared]
    exact countP_openings hname queries (by decide) t
  · rw [← List.countP_eq_length_filter, funext hreferred]
    exact countP_openings hname queries (by decide) t

/-- **Everything is put in at once**, as far as the text tells where, and each list is counted. -/
theorem inject_eq (types : TypeNames)
    (h : Fits (types.builder.toList :: types.queries.map String.toList) p) (t : Text) :
    (inject types p t).1 =
        extended types.builder.toList (types.queries.map String.toList) p t ∧
      (inject types p t).2 =
        let ss := listSites types.builder.toList (types.queries.map String.toList) t
        { declarations := tally .declaration ss
          usages := tally .usage ss
          references := tally .reference ss } := by
  have hname := h.words _ (.head _)
  obtain ⟨htext, husages⟩ := injectQueries_extended t types.queries [] h
  obtain ⟨hdeclarations, hreferences⟩ :=
    openings_eq hname (types.queries.map String.toList) t
  rw [tally_usage_nil, Nat.add_zero] at husages
  rw [List.nil_append] at htext husages
  constructor
  · simp only [inject, injectBuilder_eq hname, htext]
  · simp only [inject, injectBuilder_eq hname, husages, hdeclarations, hreferences]

end Generics

end Multidialect
