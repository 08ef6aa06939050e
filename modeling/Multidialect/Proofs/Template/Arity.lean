import Multidialect.Proofs.Template.Injection
import Multidialect.Proofs.Text.Parameters
import Mathlib.Data.List.Forall2
import Mathlib.Data.List.TakeWhile

/-! # The number of parameters

The three forms of the type parameters are the code, one `any` for each of its entries, and the names
that its entries start with (`Generics.IsForm`). They have as many entries
(`Generics.entries_parameters`), so each list that is extended has as many more arguments
(`Generics.inject_extends_lists`). Lists that start among the arguments of another one are extended
too, which makes no difference to the outer one: what goes into them stands inside an argument and
closes what it opens (`countFrom_extendedBehind`). This fails where a list starts in a string, as what
is put in may hold quotes.
-/

namespace Multidialect

open Text Nesting

/-- The code of type parameters closes what it opens, and each entry starts with a name. -/
structure TypeParams.Declares (p : TypeParams) : Prop where
  closes : closesItself .start p.code = true
  named : ∀ entry ∈ splitTopLevel p.code ',', parameterName entry ≠ []

instance (p : TypeParams) : Decidable p.Declares :=
  decidable_of_iff (closesItself .start p.code = true ∧
    ∀ entry ∈ splitTopLevel p.code ',', parameterName entry ≠ [])
    ⟨fun h => ⟨h.1, h.2⟩, fun h => ⟨h.closes, h.named⟩⟩

namespace Generics

variable {p : TypeParams} {builder : Text} {queries : List Text}

/-! ## What is put in -/

theorem isBlankText_of_named {entry : Text} (h : parameterName entry ≠ []) :
    isBlankText entry = false := by
  cases hblank : isBlankText entry with
  | false => rfl
  | true =>
    have hstart : trimStart entry = [] :=
      List.dropWhile_eq_nil_iff.2 (List.all_eq_true.1 hblank)
    rw [parameterName, trim, hstart] at h
    exact absurd rfl h

theorem slots_eq (h : p.Declares) : p.slots = (splitTopLevel p.code ',').length := by
  rw [TypeParams.slots, parameterCount, List.filter_eq_self.2]
  intro entry hm
  rw [isBlankText_of_named (h.named entry hm)]
  rfl

theorem parameterNames_eq (h : p.Declares) :
    parameterNames p.code = (splitTopLevel p.code ',').map parameterName := by
  rw [parameterNames, List.filter_eq_self.2]
  intro name hm
  obtain ⟨entry, hentry, rfl⟩ := List.mem_map.1 hm
  simpa using h.named entry hentry

/-- The name that an entry starts with, behind white space: a whole one. -/
def IsNameOf (entry name : Text) : Prop :=
  ∃ ws rest, entry = ws ++ name ++ rest ∧ (∀ c ∈ ws, isBlank c = true) ∧ IsParameterName name ∧
    rest.head?.any isNameChar = false

theorem isNameOf_parameterName {entry : Text} (h : parameterName entry ≠ []) :
    IsNameOf entry (parameterName entry) := by
  obtain ⟨ws, hentry, hws⟩ := exists_blanks entry
  rw [parameterName_eq] at h ⊢
  refine ⟨ws, (trimStart entry).dropWhile isNameChar, ?_, hws, ⟨h, all_takeWhile⟩, head?_dropWhile⟩
  rw [List.append_assoc, List.takeWhile_append_dropWhile]
  exact hentry

/-- What goes into a list of a kind, told by the entries of the code: the code as it is, one `any` for
each entry, or the name of each entry. -/
inductive IsForm (code : Text) : SiteKind → Text → Prop
  | declaration : IsForm code .declaration code
  | reference : IsForm code .reference
      (join [',', ' '] (List.replicate (splitTopLevel code ',').length ['a', 'n', 'y']))
  | usage {names : List Text} (h : List.Forall₂ IsNameOf (splitTopLevel code ',') names) :
      IsForm code .usage (join [',', ' '] names)

theorem isForm_parameters (h : p.Declares) (k : SiteKind) : IsForm p.code k (k.parameters p) := by
  cases k with
  | declaration => exact .declaration
  | reference =>
    rw [SiteKind.parameters, TypeParams.permissive, slots_eq h]
    exact .reference
  | usage =>
    rw [SiteKind.parameters, TypeParams.arguments, stripConstraints, parameterNames_eq h]
    refine .usage (List.forall₂_map_right_iff.2 (List.forall₂_same.2 fun entry hm => ?_))
    exact isNameOf_parameterName (h.named entry hm)

/-- The forms of the parameters have as many entries, and close what they open. -/
theorem entries_parameters (h : p.Declares) (k : SiteKind) :
    closesItself (level 0) (k.parameters p) = true ∧
      entriesFrom (level 0) false (k.parameters p) = p.slots := by
  have hlist : ∀ names : List Text, (∀ name ∈ names, IsParameterName name) →
      closesItself (level 0) (join [',', ' '] names) = true ∧
        entriesFrom (level 0) false (join [',', ' '] names) = names.length := fun names hnames =>
    ⟨closesItself_of_isOrdinary rfl rfl (isOrdinary_of_mem_join hnames),
      entriesFrom_join (plain_level 0) rfl hnames⟩
  cases k with
  | declaration =>
    have hself := h.closes
    rw [plain_start.closesItself_eq] at hself
    have hentries := plain_start.entriesFrom_eq false p.code
    rw [entriesFrom_start] at hentries
    exact ⟨hself, hentries.symm⟩
  | reference =>
    have hany := hlist (List.replicate p.slots ['a', 'n', 'y']) fun name hname => by
      rw [List.eq_of_mem_replicate hname]
      exact ⟨by decide, List.all_eq_true.1 (by decide)⟩
    rwa [List.length_replicate] at hany
  | usage =>
    have hnames := hlist (parameterNames p.code) fun name hname =>
      ⟨(isNameChar_of_mem_parameterNames hname).1, (isNameChar_of_mem_parameterNames hname).2⟩
    have hslots : (parameterNames p.code).length = p.slots := by
      rw [parameterNames_eq h, List.length_map, slots_eq h]
    rwa [hslots] at hnames

theorem Site.inserted_eq (p : TypeParams) (site : Site) :
    site.inserted p =
      site.kind.parameters p ++ ',' :: if site.blanks = [] then [' '] else site.blanks := by
  rw [Site.inserted, separator]
  split <;> rfl

/-! ## Lists among the arguments -/

/-- Where a list starts the text is in no string, and in brackets. -/
def Ready (builder : Text) (queries : List Text) (before : Text) (s : Nesting) (filled : Bool) :
    Prop :=
  ∀ back blanks, opened? before = some (back, blanks) → (kind? builder queries back).isSome →
    s.Plain ∧ 0 < s.depth ∧ filled = true

theorem Ready.next {before : Text} {s : Nesting} {filled : Bool} {c : Char}
    (hblank : isBlank c = true → Ready builder queries before s filled)
    (hopen : c = '<' → (kind? builder queries before).isSome → s.quote = none) :
    Ready builder queries (c :: before) (s.next c) (filled || !isBlank c) := by
  intro back blanks hopened hkind
  rw [opened?] at hopened
  split at hopened
  · rename_i hc
    obtain ⟨⟨back', blanks'⟩, hbefore, he⟩ := Option.map_eq_some_iff.1 hopened
    obtain ⟨rfl, -⟩ := Prod.mk.inj he
    obtain ⟨hplain, hdepth, hfilled⟩ := hblank hc _ _ hbefore hkind
    obtain ⟨hnext, hsame⟩ := hplain.next_blank hc
    exact ⟨hnext, by omega, by rw [hfilled, Bool.true_or]⟩
  · rename_i hc
    split at hopened
    · rename_i hbracket
      subst hbracket
      obtain ⟨rfl, -⟩ := Prod.mk.inj (Option.some.inj hopened)
      have hnone : isBlank '<' = false := by decide
      rw [next_open (hopen rfl hkind), hnone]
      exact ⟨⟨rfl, by simp⟩, Nat.succ_pos _, by simp⟩
    · cases hopened

theorem Ready.of_cutsAt {before : Text} {s s' : Nesting} {filled : Bool} {c : Char}
    (h : s.cutsAt ',' c = true) : Ready builder queries (c :: before) s' filled := by
  have hcomma : c = ',' := by
    simp only [cutsAt, Bool.and_eq_true, beq_iff_eq] at h
    exact h.1.1.1.2
  have hblank : isBlank ',' = false := by decide
  have hnone : opened? (',' :: before) = none := by simp [opened?, hblank]
  intro back blanks hopened
  rw [hcomma, hnone] at hopened
  cases hopened

/-- What is put in stands inside an argument. -/
theorem Ready.countFrom_inserted (hp : p.Declares) {before after : Text} {s : Nesting} {filled : Bool}
    {site : Site} (h : Ready builder queries before s filled)
    (hsite : site? builder queries before after = some site) (t : Text) :
    countFrom s filled (site.inserted p ++ t) = countFrom s filled t := by
  obtain ⟨-, hblanks, back, hbefore, hkind⟩ := site?_eq_some hsite
  obtain ⟨hplain, hdepth, rfl⟩ :=
    h back site.blanks (opened?_eq_some.2 ⟨hbefore, hblanks⟩) (by rw [hkind]; rfl)
  obtain ⟨ws, hsep, -, hws⟩ := separator_eq hblanks
  rw [Site.inserted, hsep]
  exact countFrom_nested hplain hdepth (entries_parameters hp site.kind).1 hws t

/-- **Inside the arguments of a list** other lists may be extended. -/
theorem countFrom_extendedBehind (hp : p.Declares) {before t args : Text} {s : Nesting}
    {filled : Bool} (hargs : argumentsFrom? s t = some args)
    (hquotes : ∀ u v, args = u ++ '<' :: v → (kind? builder queries (u.reverse ++ before)).isSome →
      (s.run u).quote = none)
    (hready : t.head?.any isBlank = true → Ready builder queries before s filled) :
    countFrom s filled (extendedBehind builder queries p before t) = countFrom s filled t := by
  induction t generalizing before s filled args with
  | nil => rfl
  | cons c cs ih =>
    rw [argumentsFrom?] at hargs
    simp only [extendedBehind, annotate, withInsertions, List.flatMap_cons, List.cons_append]
    rw [countFrom_cons, countFrom_cons]
    by_cases hcloses : s.closesAt c = true
    · rw [if_pos hcloses, if_pos hcloses]
    · rw [if_neg hcloses] at hargs ⊢
      obtain ⟨rest, hrest, rfl⟩ := Option.map_eq_some_iff.1 hargs
      have hquotes' : ∀ u v, rest = u ++ '<' :: v →
          (kind? builder queries (u.reverse ++ c :: before)).isSome →
            ((s.next c).run u).quote = none := by
        rintro u v rfl hkind
        exact hquotes (c :: u) v rfl (by simpa using hkind)
      have hnext : Ready builder queries (c :: before) (s.next c) (filled || !isBlank c) :=
        Ready.next (fun hc => hready (by simpa using hc)) fun hc hkind => by
          subst hc
          exact hquotes [] rest rfl hkind
      have hcount : ∀ filled', Ready builder queries (c :: before) (s.next c) filled' →
          countFrom (s.next c) filled' ((site? builder queries (c :: before) cs).elim []
            (Site.inserted p) ++ extendedBehind builder queries p (c :: before) cs) =
          countFrom (s.next c) filled' cs := by
        intro filled' hready'
        rw [← ih hrest hquotes' fun _ => hready']
        cases hsite : site? builder queries (c :: before) cs with
        | none => rfl
        | some site => exact hready'.countFrom_inserted hp hsite _
      split
      · rename_i hcut
        rw [← hcount false (.of_cutsAt hcut)]
        rfl
      · rw [← hcount _ hnext]
        rfl

/-! ## Lists that are extended -/

/-- A text ends with a keyword that is a word, and white space. -/
def EndsInKeyword (t : Text) : Prop :=
  ∃ lead keyword ws, t = lead ++ keyword ++ ws ∧ keyword ∈ keywords ∧ ws ≠ [] ∧
    (∀ c ∈ ws, isBlank c = true) ∧ lead.getLast?.any isWordChar = false

/-- The kind of the list of `name` behind `lead`. -/
inductive KindBehind (builder : Text) (queries : List Text) (lead : Text) : Text → SiteKind → Prop
  | declaration (h : EndsInKeyword lead) : KindBehind builder queries lead builder .declaration
  | reference (h : ¬ EndsInKeyword lead) : KindBehind builder queries lead builder .reference
  | usage {name : Text} (h : name ∈ queries) : KindBehind builder queries lead name .usage

/-- Between `front` and `rest` the white space ends behind `<` and one of the names, which is a word
of its own. -/
structure IsSite (builder : Text) (queries : List Text) (front rest : Text) (site : Site)
    (lead name : Text) : Prop where
  split : front = lead ++ name ++ '<' :: site.blanks
  starts : lead.getLast?.any isWordChar = false
  blanks : ∀ c ∈ site.blanks, isBlank c = true
  ends : rest.head?.any isBlank = false
  kind : KindBehind builder queries lead name site.kind

theorem KindBehind.mem {lead name : Text} {k : SiteKind}
    (h : KindBehind builder queries lead name k) : name ∈ builder :: queries := by
  cases h with
  | declaration => exact .head _
  | reference => exact .head _
  | usage hm => exact .tail _ hm

theorem declares_reverse {t : Text} : declares t.reverse = true ↔ EndsInKeyword t := by
  rw [declares_iff]
  constructor
  · rintro ⟨keyword, ws, front, hkeyword, hne, hws, hfront, he⟩
    refine ⟨front.reverse, keyword, ws, ?_, hkeyword, hne, hws, by rwa [List.getLast?_reverse]⟩
    have hrev := congrArg List.reverse he
    simpa using hrev
  · rintro ⟨lead, keyword, ws, rfl, hkeyword, hne, hws, hlead⟩
    exact ⟨keyword, ws, lead.reverse, hkeyword, hne, hws, by rwa [List.head?_reverse], by simp⟩

theorem kind?_iff (hbuilder : builder ∉ queries) {name lead : Text} {k : SiteKind}
    (hname : IsIdentifier name) (hlead : lead.getLast?.any isWordChar = false) :
    kind? builder queries (name.reverse ++ lead.reverse) = some k ↔
      KindBehind builder queries lead name k := by
  have hhead : lead.reverse.head?.any isWordChar = false := by rwa [List.head?_reverse]
  rw [kind?, (wordBefore_eq_iff hname.word).2 ⟨_, rfl, hhead⟩, dropWhile_of_word hname.word hhead]
  constructor
  · intro h
    split at h
    · rename_i he
      subst he
      obtain rfl := Option.some.inj h
      split
      · rename_i hd
        exact .declaration (declares_reverse.1 hd)
      · rename_i hd
        exact .reference fun he => hd (declares_reverse.2 he)
    · split at h
      · rename_i hm
        obtain rfl := Option.some.inj h
        exact .usage hm
      · cases h
  · intro h
    cases h with
    | declaration h => rw [if_pos rfl, if_pos (declares_reverse.2 h)]
    | reference h => rw [if_pos rfl, if_neg fun hd => h (declares_reverse.1 hd)]
    | usage h =>
      have hne : name ≠ builder := by
        rintro rfl
        exact hbuilder h
      rw [if_neg hne, if_pos h]

/-- What looking back finds are the names in front of `<`. -/
theorem site?_iff (h : Fits (builder :: queries) p) {front rest : Text} {site : Site} :
    site? builder queries front.reverse rest = some site ↔
      ∃ lead name, IsSite builder queries front rest site lead name := by
  have hbuilder : builder ∉ queries := (List.nodup_cons.1 h.distinct).1
  constructor
  · intro hsite
    obtain ⟨hrest, hblanks, back, hfront, hkind⟩ := site?_eq_some hsite
    have hname := h.words _ (wordBefore_mem_of_kind? hkind)
    obtain ⟨lead, hback, hlead⟩ := (wordBefore_eq_iff hname.word).1 rfl
    have hends : lead.reverse.getLast?.any isWordChar = false := by rwa [List.getLast?_reverse]
    refine ⟨lead.reverse, wordBefore back, ?_, hends, hblanks, hrest, ?_⟩
    · have hrev := congrArg List.reverse hfront
      rw [hback] at hrev
      simpa using hrev
    · rw [← kind?_iff hbuilder hname hends, List.reverse_reverse, ← hback, hkind]
  · rintro ⟨lead, name, hsite⟩
    have hname : IsIdentifier name := h.words _ hsite.kind.mem
    have hfront : front.reverse = site.blanks.reverse ++ '<' :: (name.reverse ++ lead.reverse) := by
      rw [hsite.split]
      simp
    rw [site?, lookBack_eq_some.2 ⟨hsite.ends, hsite.blanks, _, hfront,
      (kind?_iff hbuilder hname hsite.starts).2 hsite.kind⟩]
    rfl

/-- No list of some names starts in a string among the arguments. -/
def Unquoted (names : List Text) (args : Text) : Prop :=
  ∀ u v, args = u ++ '<' :: v → wordBefore u.reverse ∈ names → (start.run u).quote = none

theorem unquoted_iff {names : List Text} {args : Text} :
    Unquoted names args ↔ ∀ i < args.length, args[i]? = some '<' →
      wordBefore (args.take i).reverse ∈ names → (start.run (args.take i)).quote = none :=
  forall_split_iff

instance (names : List Text) (args : Text) : Decidable (Unquoted names args) :=
  decidable_of_iff (∀ i < args.length, args[i]? = some '<' →
      names.contains (wordBefore (args.take i).reverse) = true →
        (start.run (args.take i)).quote = none)
    (by simp only [List.contains_iff_mem, unquoted_iff])

/-- If no list of a text starts in a string, none does among the arguments of a list. -/
theorem Unquoted.arguments {front rest args : Text} {site : Site}
    (h : Unquoted (builder :: queries) (front ++ rest))
    (hsite : site? builder queries front.reverse rest = some site)
    (hargs : arguments? (site.blanks ++ rest) = some args) : Unquoted (builder :: queries) args := by
  obtain ⟨-, -, back, hfront, hkind⟩ := site?_eq_some hsite
  obtain ⟨more, hmore⟩ := argumentsFrom?_eq_some hargs
  have hsplit : front ++ rest = back.reverse ++ '<' :: (args ++ '>' :: more) := by
    have hrev := congrArg List.reverse hfront
    rw [← hmore, ← List.reverse_reverse front, hfront]
    simp
  have hstart := h back.reverse _ hsplit (by
    rw [List.reverse_reverse]
    exact wordBefore_mem_of_kind? hkind)
  rintro u v rfl hword
  have hinner := h (back.reverse ++ '<' :: u) (v ++ '>' :: more) (by rw [hsplit]; simp) (by
    have hback : ((back.reverse ++ '<' :: u).reverse) = u.reverse ++ '<' :: back := by simp
    rw [hback, wordBefore_append (by simp; decide)]
    exact hword)
  -- Behind `<` the text is in no string, as it is at the start.
  have hopen : ((start.run back.reverse).next '<').Plain := by
    rw [next_open hstart]
    exact ⟨rfl, by simp⟩
  rw [run, List.foldl_append, List.foldl_cons, ← run, ← run,
    hopen.quote_run_eq plain_start] at hinner
  exact hinner

/-- What is put in stands behind the white space. -/
theorem exists_extended_eq {front rest : Text} {site : Site}
    (h : site? builder queries front.reverse rest = some site) :
    ∃ lead, extended builder queries p (front ++ rest) = lead ++ '<' :: (site.blanks ++
      (site.inserted p ++ extendedBehind builder queries p front.reverse rest)) := by
  obtain ⟨-, hblanks, back, hfront, -⟩ := site?_eq_some h
  have hsplit : front = back.reverse ++ '<' :: site.blanks := by
    have hrev := congrArg List.reverse hfront
    simpa using hrev
  have hbefore : ('<' :: site.blanks).reverse ++ back = front.reverse := by
    rw [hfront]
    simp
  have hmark : annotate (site? builder queries) back ('<' :: site.blanks ++ rest) =
      mark site ('<' :: site.blanks) ++ annotate (site? builder queries) front.reverse rest := by
    rw [annotate_of_last (by simp) (by rw [hbefore]; exact h), hbefore]
    intro w x hw hw' hx
    -- A list that starts here has white space left.
    obtain ⟨c, w, rfl⟩ := List.exists_cons_of_ne_nil hw'
    obtain ⟨d, x, rfl⟩ := List.exists_cons_of_ne_nil hx
    have hd : isBlank d = true := by
      have hblank := (List.cons.inj hw).2
      exact hblanks d (hblank ▸ List.mem_append_right w (.head _))
    simp [site?, lookBack, hd]
  refine ⟨withInsertions (Site.inserted p)
    (annotate (fun b a => site? builder queries b (a ++ ('<' :: site.blanks ++ rest))) []
      back.reverse), ?_⟩
  have hmarked := withInsertions_mark (Site.inserted p) site (t := '<' :: site.blanks) (by simp)
  rw [withInsertions] at hmarked
  rw [extended, extendedBehind, hsplit, List.append_assoc, annotate_append, List.reverse_reverse,
    List.append_nil, hmark, withInsertions, List.flatMap_append, List.flatMap_append, hmarked,
    ← withInsertions, ← withInsertions, ← extendedBehind, ← hsplit]
  simp

/-- Behind what is put in for a list, its arguments are as many as they were. -/
theorem countFrom_behind_site (hp : p.Declares) {front rest args : Text} {site : Site}
    (hsite : site? builder queries front.reverse rest = some site)
    (hargs : argumentsFrom? (level 0) rest = some args)
    (hquotes : Unquoted (builder :: queries) (site.blanks ++ args)) :
    countFrom (level 0) false (extendedBehind builder queries p front.reverse rest) =
      countFrom (level 0) false rest := by
  obtain ⟨hrest, hblanks, back, hfront, -⟩ := site?_eq_some hsite
  refine countFrom_extendedBehind hp hargs ?_ fun hblank => ?_
  · rintro u v rfl hkind
    obtain ⟨k, hk⟩ := Option.isSome_iff_exists.1 hkind
    have hopened : opened? front.reverse = some (back, site.blanks) :=
      opened?_eq_some.2 ⟨hfront, hblanks⟩
    have hword := wordBefore_mem_of_kind? hk
    rw [wordBefore_append (not_word_of_opened hopened)] at hword
    have hblank : site.blanks.reverse.head?.any isWordChar = false := by
      rw [← List.append_nil site.blanks.reverse]
      exact head_not_word_of_blanks (by simpa using hblanks) rfl
    have hnone := hquotes (site.blanks ++ u) v (by simp)
      (by rwa [List.reverse_append, wordBefore_append hblank])
    rw [run, List.foldl_append, ← run, ← run,
      (plain_start.run_blanks hblanks).quote_run_eq (plain_level 0)] at hnone
    exact hnone
  · rw [hrest] at hblank
    cases hblank

/-- The arguments of a list that is extended. -/
theorem arguments?_extended (hp : p.Declares) {front rest args : Text} {site : Site}
    (hsite : site? builder queries front.reverse rest = some site)
    (hargs : arguments? (site.blanks ++ rest) = some args)
    (hquotes : Unquoted (builder :: queries) args) :
    ∃ args', arguments? (site.blanks ++
        (site.inserted p ++ extendedBehind builder queries p front.reverse rest)) = some args' ∧
      parameterCount args' = parameterCount args + p.slots := by
  obtain ⟨-, hblanks, -⟩ := site?_eq_some hsite
  obtain ⟨ws, hsep, -, hws⟩ := separator_eq hblanks
  obtain ⟨hclose, hentries⟩ := entries_parameters hp site.kind
  obtain ⟨args₀, hargs₀, rfl⟩ : ∃ args₀, argumentsFrom? (level 0) rest = some args₀ ∧
      site.blanks ++ args₀ = args := by
    rw [arguments?, argumentsFrom?_blanks plain_start hblanks] at hargs
    exact Option.map_eq_some_iff.1 hargs
  have hinner := countFrom_behind_site hp hsite hargs₀ hquotes
  have hcount : countFrom start false (site.blanks ++
      (site.inserted p ++ extendedBehind builder queries p front.reverse rest)) =
        (countFrom start false (site.blanks ++ rest)).map (p.slots + ·) := by
    calc countFrom start false (site.blanks ++
            (site.inserted p ++ extendedBehind builder queries p front.reverse rest))
      _ = countFrom (level 0) false (site.kind.parameters p ++ ',' ::
            (ws ++ extendedBehind builder queries p front.reverse rest)) := by
        rw [countFrom_blanks plain_start hblanks, Site.inserted, hsep]
        simp [start]
      _ = (countFrom (level 0) false
            (ws ++ extendedBehind builder queries p front.reverse rest)).map (p.slots + ·) := by
        rw [countFrom_append_comma hclose, hentries]
      _ = (countFrom (level 0) false rest).map (p.slots + ·) := by
        rw [countFrom_blanks (plain_level 0) hws, ← hinner]
        rfl
      _ = (countFrom start false (site.blanks ++ rest)).map (p.slots + ·) := by
        rw [countFrom_blanks plain_start hblanks]
        rfl
  rw [countFrom_start, countFrom_start, hargs] at hcount
  obtain ⟨args', hargs', hsum⟩ := Option.map_eq_some_iff.1 hcount
  exact ⟨args', hargs', by rw [hsum, Nat.add_comm]⟩

/-- **Type parameters are put in** behind `<` and the white space of each list, which are told by
their names in the original text: in the form that goes into lists of that kind, with a comma behind
them and then the white space once more, or a space if there is none; the numbers of lists are
counted. The arguments of a list that is closed are as many more as there are
parameters, if no list among them starts in a string; none does if none does in the text. -/
theorem inject_extends_lists (types : TypeNames) (p : TypeParams) (t : Text)
    (hfits : Fits (types.builder.toList :: types.queries.map String.toList) p)
    (hp : p.Declares) :
    (∀ front rest site,
      site? types.builder.toList (types.queries.map String.toList) front.reverse rest = some site ↔
        ∃ lead name, IsSite types.builder.toList (types.queries.map String.toList) front rest site
          lead name) ∧
    (∀ site : Site, ∃ form, IsForm p.code site.kind form ∧
      site.inserted p = form ++ ',' :: if site.blanks = [] then [' '] else site.blanks) ∧
    (inject types p t).1 = withInsertions (Site.inserted p)
      (annotate (site? types.builder.toList (types.queries.map String.toList)) [] t) ∧
    (inject types p t).2 =
      (let ss := listSites types.builder.toList (types.queries.map String.toList) t
       { declarations := tally .declaration ss
         usages := tally .usage ss
         references := tally .reference ss }) ∧
    ∀ front rest site args, t = front ++ rest →
      site? types.builder.toList (types.queries.map String.toList) front.reverse rest = some site →
      arguments? (site.blanks ++ rest) = some args →
      (Unquoted (types.builder.toList :: types.queries.map String.toList) t →
        Unquoted (types.builder.toList :: types.queries.map String.toList) args) ∧
      (Unquoted (types.builder.toList :: types.queries.map String.toList) args →
        ∃ lead rest' args', (inject types p t).1 = lead ++ '<' :: (site.blanks ++ rest') ∧
          rest' = site.inserted p ++ extendedBehind types.builder.toList
            (types.queries.map String.toList) p front.reverse rest ∧
          arguments? (site.blanks ++ rest') = some args' ∧
          parameterCount args' = parameterCount args + p.slots) := by
  obtain ⟨htext, hcounts⟩ := inject_eq types hfits t
  refine ⟨fun front rest site => site?_iff hfits, fun site => ?_, htext, hcounts, ?_⟩
  · exact ⟨_, isForm_parameters hp site.kind, site.inserted_eq p⟩
  rintro front rest site args rfl hsite hargs
  refine ⟨fun hquotes => hquotes.arguments hsite hargs, fun hquotes => ?_⟩
  obtain ⟨lead, hlead⟩ := exists_extended_eq (p := p) hsite
  obtain ⟨args', hargs', hsum⟩ := arguments?_extended hp hsite hargs hquotes
  exact ⟨lead, _, args', htext.trans hlead, rfl, hargs', hsum⟩

/-- A query type is used among the parameters of a builder that is declared. -/
theorem inject_extends_lists_nested :
    let types : TypeNames := ⟨"Builder", ["Query"], []⟩
    let p : TypeParams := ⟨"TMode extends 'sync' | 'async', TRun = Map<string, void>".toList⟩
    let front := "interface Builder<\n  ".toList
    let rest := "S, F extends Query<S>\n>\nlet b: Builder<S, F>".toList
    Fits (types.builder.toList :: types.queries.map String.toList) p ∧ p.Declares ∧
      (inject types p (front ++ rest)).2 = ⟨1, 1, 1⟩ ∧
      arguments? ("\n  ".toList ++ rest) = some "\n  S, F extends Query<S>\n".toList ∧
      ∃ lead behind args', (inject types p (front ++ rest)).1 = lead ++ '<' :: behind ∧
        arguments? behind = some args' ∧ parameterCount args' = 4 := by
  intro types p front rest
  have hfits : Fits (types.builder.toList :: types.queries.map String.toList) p := by
    decide +kernel
  have hp : p.Declares := by decide +kernel
  have hsite : site? types.builder.toList (types.queries.map String.toList) front.reverse rest =
      some ⟨.declaration, "\n  ".toList⟩ := by decide +kernel
  have hargs : arguments? ("\n  ".toList ++ rest) = some "\n  S, F extends Query<S>\n".toList := by
    decide +kernel
  have hquotes : Unquoted (types.builder.toList :: types.queries.map String.toList)
      "\n  S, F extends Query<S>\n".toList := by decide +kernel
  obtain ⟨-, -, -, -, hlists⟩ := inject_extends_lists types p (front ++ rest) hfits hp
  obtain ⟨lead, behind, args', htext, -, hargs', hcount⟩ :=
    (hlists front rest _ _ rfl hsite hargs).2 hquotes
  refine ⟨hfits, hp, by decide +kernel, hargs, lead, _, args', htext, hargs', ?_⟩
  rw [hcount]
  decide +kernel

end Generics

end Multidialect
