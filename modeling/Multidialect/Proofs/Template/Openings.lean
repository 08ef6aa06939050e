import Multidialect.Proofs.Template.Sites
import Multidialect.Proofs.Text.Identifiers
import Multidialect.Proofs.Text.Insertion
import Mathlib.Data.List.Induction

/-! # Parameter lists, looking back

The rules for type parameters look for a name and `<` from left to right. From behind `<` and its
white space the same lists are told by the name in front of `<`, where a word starts or ends in front
of it, and a declaration by the keyword in front of that (`declares`). So no list is missed: the search
for the builder and the search for a query type find what looking back finds (`places_openings`,
`places_usages`). If the name is a word, it is the word in front of `<` (`wordBefore`), and no list is
taken for another one (`places_builder`, `places_query`).
-/

namespace Multidialect

open Unicode (not_isWordChar_of_isBlank)

namespace Text

variable {κ α : Type}

/-! ## The word in front of a place -/

/-- A name is a word. -/
structure IsIdentifier (name : Text) : Prop where
  ne_nil : name ≠ []
  word : ∀ c ∈ name, isWordChar c = true

instance (name : Text) : Decidable (IsIdentifier name) :=
  decidable_of_iff (name ≠ [] ∧ name.all isWordChar = true)
    ⟨fun h => ⟨h.1, List.all_eq_true.1 h.2⟩, fun h => ⟨h.ne_nil, List.all_eq_true.2 h.word⟩⟩

/-- The word that ends where `before` ends. -/
def wordBefore (before : Text) : Text := (before.takeWhile isWordChar).reverse

theorem wordBefore_cons (c : Char) (before : Text) :
    wordBefore (c :: before) = if isWordChar c then wordBefore before ++ [c] else [] := by
  rw [wordBefore, List.takeWhile_cons]
  split <;> simp [wordBefore]

theorem wordBefore_eq_nil {before : Text} (h : before.head?.any isWordChar = false) :
    wordBefore before = [] := by
  cases before with
  | nil => rfl
  | cons c before =>
    have hc : isWordChar c = false := by simpa using h
    rw [wordBefore_cons, hc]
    rfl

theorem wordBefore_append {u before : Text} (h : before.head?.any isWordChar = false) :
    wordBefore (u ++ before) = wordBefore u := by
  induction u with
  | nil => exact wordBefore_eq_nil h
  | cons c u ih => rw [List.cons_append, wordBefore_cons, wordBefore_cons, ih]

theorem wordBefore_eq_iff {name before : Text} (hname : ∀ c ∈ name, isWordChar c = true) :
    wordBefore before = name ↔
      ∃ front, before = name.reverse ++ front ∧ front.head?.any isWordChar = false := by
  constructor
  · rintro rfl
    exact ⟨before.dropWhile isWordChar, by simp [wordBefore], head?_dropWhile⟩
  · rintro ⟨front, rfl, hfront⟩
    rw [wordBefore, (takeWhile_of_run (by simpa using hname) hfront).1, List.reverse_reverse]

theorem dropWhile_of_word {name front : Text} (hname : ∀ c ∈ name, isWordChar c = true)
    (hfront : front.head?.any isWordChar = false) :
    (name.reverse ++ front).dropWhile isWordChar = front :=
  (takeWhile_of_run (by simpa using hname) hfront).2

theorem IsIdentifier.reverse {name : Text} (h : IsIdentifier name) : IsIdentifier name.reverse :=
  ⟨by simpa using h.ne_nil, by simpa using h.word⟩

theorem IsIdentifier.atWordBoundary {name before : Text} (h : IsIdentifier name) (rest : Text) :
    atWordBoundary before (name ++ rest) = !before.head?.any isWordChar := by
  cases name with
  | nil => exact absurd rfl h.ne_nil
  | cons c name => simp [Text.atWordBoundary, h.word c (.head _)]

theorem IsIdentifier.head_not_blank {name : Text} (h : IsIdentifier name) (rest : Text) :
    (name ++ rest).head?.any isBlank = false := by
  cases name with
  | nil => exact absurd rfl h.ne_nil
  | cons c name =>
    cases hc : isBlank c with
    | false => simpa using hc
    | true =>
      have hword := h.word c (.head _)
      rw [not_isWordChar_of_isBlank hc] at hword
      cases hword

theorem IsIdentifier.isWhole {name : Text} (h : IsIdentifier name) : IsWhole name :=
  ⟨h.ne_nil, fun c hc => by simp [isIdentifierChar, Unicode.isIdentifierChar, h.word c hc]⟩

theorem IsWhole.atWordBoundary {name before : Text} (h : IsWhole name) (rest : Text) :
    Text.atWordBoundary before (name ++ rest) = Text.atWordBoundary before name := by
  obtain ⟨c, name, rfl⟩ := List.exists_cons_of_ne_nil h.ne_nil
  rfl

theorem IsWhole.head_not_blank {name : Text} (h : IsWhole name) (rest : Text) :
    (name ++ rest).head?.any isBlank = false := by
  obtain ⟨c, name, rfl⟩ := List.exists_cons_of_ne_nil h.ne_nil
  cases hc : isBlank c with
  | false => simpa using hc
  | true =>
    have hblank : ∀ d ∈ [c], isBlank d = true := by simpa using hc
    have hforeign : isIdentifierChar c = false := isForeign_of_blank hblank c (.head _)
    rw [h.identifier c (.head _)] at hforeign
    cases hforeign

theorem IsWhole.notMem {name : Text} (h : IsWhole name) {c : Char}
    (hc : isIdentifierChar c = false) : c ∉ name := by
  intro hm
  rw [h.identifier c hm] at hc
  cases hc

theorem head_not_word_of_blanks {ws rest : Text} (hws : ∀ c ∈ ws, isBlank c = true)
    (hrest : rest.head?.any isWordChar = false) : (ws ++ rest).head?.any isWordChar = false := by
  cases ws with
  | nil => exact hrest
  | cons c ws => simpa using not_isWordChar_of_isBlank (hws c (.head _))

theorem head_not_word {ws : Text} (hne : ws ≠ []) (hws : ∀ c ∈ ws, isBlank c = true) (rest : Text) :
    (ws ++ rest).head?.any isWordChar = false := by
  cases ws with
  | nil => exact absurd rfl hne
  | cons c ws => simpa using not_isWordChar_of_isBlank (hws c (.head _))

/-! ## The start of a list -/

/-- For a text that ends with `<` and white space, what stands in front of `<`, last one first, and
the white space. -/
def opened? : Text → Option (Text × Text)
  | [] => none
  | c :: before =>
    if isBlank c then (opened? before).map fun x => (x.1, x.2 ++ [c])
    else if c = '<' then some (before, [])
    else none

theorem opened?_eq_some {before back blanks : Text} :
    opened? before = some (back, blanks) ↔
      before = blanks.reverse ++ '<' :: back ∧ ∀ c ∈ blanks, isBlank c = true := by
  constructor
  · intro h
    induction before generalizing blanks with
    | nil => cases h
    | cons c before ih =>
      rw [opened?] at h
      split at h
      · rename_i hc
        obtain ⟨⟨back', blanks'⟩, hrest, h⟩ := Option.map_eq_some_iff.1 h
        obtain ⟨rfl, rfl⟩ := Prod.mk.inj h
        obtain ⟨rfl, hblanks⟩ := ih hrest
        refine ⟨by simp, fun d hd => ?_⟩
        rcases List.mem_append.1 hd with hd | hd
        · exact hblanks d hd
        · rw [List.mem_singleton.1 hd]
          exact hc
      · split at h
        · rename_i hc
          obtain ⟨rfl, rfl⟩ := Prod.mk.inj (Option.some.inj h)
          simp [hc]
        · cases h
  · rintro ⟨rfl, hblanks⟩
    induction blanks using List.reverseRecOn with
    | nil =>
      have hbracket : isBlank '<' = false := by decide
      simp [opened?, hbracket]
    | append_singleton blanks c ih =>
      have hc : isBlank c = true := hblanks c (by simp)
      simp [opened?, hc, ih fun d hd => hblanks d (List.mem_append_left _ hd)]

/-- What the start of a list is that ends here, for what `kind?` says of the text in front of `<`,
and the white space behind `<`, of which none is left. -/
def lookBack (kind? : Text → Option κ) (before after : Text) : Option (κ × Text) :=
  if after.head?.any isBlank then none
  else (opened? before).bind fun x => (kind? x.1).map (·, x.2)

theorem lookBack_eq_some {kind? : Text → Option κ} {before after blanks : Text} {k : κ} :
    lookBack kind? before after = some (k, blanks) ↔
      after.head?.any isBlank = false ∧ (∀ c ∈ blanks, isBlank c = true) ∧
        ∃ back, before = blanks.reverse ++ '<' :: back ∧ kind? back = some k := by
  unfold lookBack
  constructor
  · intro h
    split at h
    · cases h
    · rename_i hafter
      obtain ⟨⟨back, blanks'⟩, hopened, h⟩ := Option.bind_eq_some_iff.1 h
      obtain ⟨k', hk, h⟩ := Option.map_eq_some_iff.1 h
      obtain ⟨rfl, rfl⟩ := Prod.mk.inj h
      obtain ⟨hbefore, hblanks⟩ := opened?_eq_some.1 hopened
      exact ⟨by simpa using hafter, hblanks, back, hbefore, hk⟩
  · rintro ⟨hafter, hblanks, back, hbefore, hk⟩
    rw [opened?_eq_some.2 ⟨hbefore, hblanks⟩, hafter]
    simp [hk]

/-! ## What is covered -/

/-- The start of a list with all that belongs to it covers `lead back` characters in front of `<`,
which begin with no white space and hold no `<`. -/
def Leads (kind? : Text → Option κ) (lead : Text → Nat) : Prop :=
  ∀ back k, kind? back = some k → ∃ c l front, back = (c :: l).reverse ++ front ∧
    lead back = (c :: l).length ∧ '<' ∉ c :: l ∧ isBlank c = false

/-- The number of characters covered, up to the end of the white space. -/
def reachOf (lead : Text → Nat) (before : Text) : Nat :=
  match opened? before with
  | some (back, blanks) => lead back + 1 + blanks.length
  | none => 0

variable {kind? : Text → Option κ} {lead : Text → Nat}

theorem Leads.covered (h : Leads kind? lead) {before after : Text}
    (hlook : (lookBack kind? before after).isSome) :
    ∃ c l blanks front, before = (c :: l ++ '<' :: blanks).reverse ++ front ∧
      reachOf lead before = (c :: l ++ '<' :: blanks).length ∧ '<' ∉ c :: l ∧ isBlank c = false ∧
      ∀ d ∈ blanks, isBlank d = true := by
  obtain ⟨⟨k, blanks⟩, hlook⟩ := Option.isSome_iff_exists.1 hlook
  obtain ⟨-, hblanks, back, hbefore, hk⟩ := lookBack_eq_some.1 hlook
  obtain ⟨c, l, front, hback, hlead, hnot, hc⟩ := h back k hk
  refine ⟨c, l, blanks, front, by simp [hbefore, hback], ?_, hnot, hc, hblanks⟩
  rw [reachOf, opened?_eq_some.2 ⟨hbefore, hblanks⟩]
  simp only [hlead, List.length_append, List.length_cons]
  omega

/-- Of a text that ends with `<` and white space, an end that starts with another character holds that
`<`. -/
theorem mem_of_end {x w lead ws : Text} {c : Char} (h : lead ++ '<' :: ws = x ++ c :: w)
    (hws : ∀ d ∈ ws, isBlank d = true) (hc : isBlank c = false) : '<' ∈ c :: w := by
  rcases List.append_eq_append_iff.1 h with ⟨m, -, hm⟩ | ⟨m, -, hm⟩
  · cases m with
    | nil =>
      obtain ⟨rfl, -⟩ := List.cons.inj hm
      exact .head _
    | cons e m =>
      obtain ⟨-, rfl⟩ := List.cons.inj hm
      rw [hws c (by simp)] at hc
      cases hc
  · rw [hm]
    simp

/-- Behind the only `<` of a text that ends with it and white space, there is nothing but white
space. -/
theorem isBlank_of_behind {w u l ws : Text} (h : w ++ u = l ++ '<' :: ws) (hl : '<' ∉ l)
    (hws : ∀ c ∈ ws, isBlank c = true) (hw : '<' ∈ w) : ∀ c ∈ u, isBlank c = true := by
  rcases List.append_eq_append_iff.1 h with ⟨m, rfl, -⟩ | ⟨m, rfl, hm⟩
  · exact absurd (List.mem_append_left m hw) hl
  · cases m with
    | nil =>
      rw [List.append_nil] at hw
      exact absurd hw hl
    | cons e m =>
      obtain ⟨-, rfl⟩ := List.cons.inj hm
      exact fun c hc => hws c (List.mem_append_right m hc)

/-- **Starts of lists do not overlap**: each holds one `<`. -/
theorem Leads.separate (h : Leads kind? lead) {before u v : Text}
    (hfirst : (lookBack kind? before (u ++ v)).isSome)
    (hlast : (lookBack kind? (u.reverse ++ before) v).isSome) (hu : u ≠ []) :
    reachOf lead (u.reverse ++ before) ≤ u.length := by
  obtain ⟨⟨k, blanks₁⟩, hfirst⟩ := Option.isSome_iff_exists.1 hfirst
  obtain ⟨hhead, hblanks₁, back₁, hbefore, -⟩ := lookBack_eq_some.1 hfirst
  obtain ⟨c, l, blanks, front, hlast, hreach, hnot, hc, hblanks⟩ := h.covered hlast
  have hsame : before.reverse ++ u = front.reverse ++ (c :: l ++ '<' :: blanks) := by
    simpa using congrArg List.reverse hlast
  rw [hreach]
  rcases List.append_eq_append_iff.1 hsame with ⟨w, -, rfl⟩ | ⟨w, hw, hcovered⟩
  · exact (List.suffix_append _ _).length_le
  · cases w with
    | nil => exact Nat.le_of_eq (congrArg List.length hcovered)
    | cons e w =>
      -- What reaches back beyond `u` holds the `<` in front of `u`, so `u` would be white space.
      obtain ⟨rfl, -⟩ := List.cons.inj hcovered
      have hopen : '<' ∈ c :: w := by
        rw [hbefore, List.reverse_append, List.reverse_cons, List.reverse_reverse,
          List.append_assoc] at hw
        exact mem_of_end hw hblanks₁ hc
      have hblank := isBlank_of_behind hcovered.symm hnot hblanks hopen
      obtain ⟨d, u, rfl⟩ := List.exists_cons_of_ne_nil hu
      have hd : isBlank d = false := by simpa using hhead
      rw [hblank d (.head _)] at hd
      cases hd

/-- The characters in front of a place are split at the same place. -/
theorem front_unique {l l' before front : Text} (h : l.reverse ++ before = l'.reverse ++ front)
    (hlen : l.length = l'.length) : l = l' ∧ before = front := by
  obtain ⟨hl, hbefore⟩ := List.append_inj h (by simpa using hlen)
  exact ⟨List.reverse_inj.1 hl, hbefore⟩

/-- A search that looks ahead for what `kind?` tells finds what looking back finds. -/
theorem places_of_leads (h : Leads kind? lead) {m : Matcher α} (f : κ × Text → α)
    (hsound : ∀ before after a n, m before after = some (a, n) →
      ∃ l blanks rest, after = l ++ '<' :: blanks ++ rest ∧ n = (l ++ '<' :: blanks).length ∧
        (∀ c ∈ blanks, isBlank c = true) ∧ rest.head?.any isBlank = false ∧
        (kind? (l.reverse ++ before)).isSome ∧ l.length ≤ lead (l.reverse ++ before))
    (hcomplete : ∀ before l blanks rest k, (∀ c ∈ blanks, isBlank c = true) →
      rest.head?.any isBlank = false → kind? (l.reverse ++ before) = some k →
      lead (l.reverse ++ before) = l.length →
      m before (l ++ '<' :: blanks ++ rest) = some (f (k, blanks), (l ++ '<' :: blanks).length)) :
    Places m (fun before after => (lookBack kind? before after).map f) (reachOf lead) where
  sound := by
    intro before after a n hm
    obtain ⟨l, blanks, rest, rfl, rfl, hblanks, hrest, hkind, hlead⟩ := hsound before after a n hm
    obtain ⟨k, hk⟩ := Option.isSome_iff_exists.1 hkind
    have hbefore : (l ++ '<' :: blanks).reverse ++ before =
        blanks.reverse ++ '<' :: (l.reverse ++ before) := by simp
    rw [List.take_left, List.drop_left, hbefore,
      lookBack_eq_some.2 ⟨hrest, hblanks, _, rfl, hk⟩, reachOf,
      opened?_eq_some.2 ⟨rfl, hblanks⟩]
    simp only [List.length_append, List.length_cons]
    exact ⟨by omega, by omega, rfl, by omega⟩
  complete := by
    intro before u v a hlook hreach
    obtain ⟨⟨k, blanks⟩, hfound, rfl⟩ := Option.map_eq_some_iff.1 hlook
    obtain ⟨hv, hblanks, back, hback, hk⟩ := lookBack_eq_some.1 hfound
    rw [reachOf, opened?_eq_some.2 ⟨hback, hblanks⟩] at hreach
    simp only at hreach
    obtain ⟨c, l, front, hsplit, hlead, -⟩ := h back k hk
    have hsame : u.reverse ++ before = (c :: l ++ '<' :: blanks).reverse ++ front := by
      rw [hback, hsplit]
      simp
    have hlen : u.length = (c :: l ++ '<' :: blanks).length := by
      rw [List.length_append, ← hlead, List.length_cons]
      omega
    obtain ⟨rfl, rfl⟩ := front_unique hsame hlen
    subst hsplit
    exact hcomplete before (c :: l) blanks v k hblanks hv hk hlead
  bounded := by
    intro before after hlook
    rw [Option.isSome_map] at hlook
    obtain ⟨c, l, blanks, front, hbefore, hreach, -⟩ := h.covered hlook
    rw [hreach, hbefore]
    simp only [List.length_append, List.length_reverse, List.length_cons]
    exact ⟨by omega, by omega⟩
  separate := by
    intro before u v hfirst hlast hu
    rw [Option.isSome_map] at hfirst hlast
    exact h.separate hfirst hlast hu

end Text

namespace Generics

open Text

variable {name : Text}

/-! ## Declarations -/

theorem isIdentifier_of_mem_keywords : ∀ keyword ∈ keywords, IsIdentifier keyword := by decide

theorem isWhole_of_mem_keywords {keyword : Text} (h : keyword ∈ keywords) : IsWhole keyword :=
  (isIdentifier_of_mem_keywords keyword h).isWhole

theorem isApart_of_blank {ws : Text} (hne : ws ≠ []) (hws : ∀ c ∈ ws, isBlank c = true)
    (rest : Text) : isApart (ws ++ rest) = true := by
  obtain ⟨c, ws, rfl⟩ := List.exists_cons_of_ne_nil hne
  exact isApart_of_foreign (isForeign_of_blank hws c (.head _))

theorem IsDeclaration.unique (hname : IsWhole name)
    {t k ws blanks rest k' ws' blanks' rest' : Text} (h : IsDeclaration name t k ws blanks rest)
    (h' : IsDeclaration name t k' ws' blanks' rest') :
    k = k' ∧ ws = ws' ∧ blanks = blanks' := by
  obtain ⟨rfl, hsplit⟩ := append_inj_of_isApart (h.split.symm.trans h'.split)
    (isWhole_of_mem_keywords h.declares).identifier (isApart_of_blank h.apart h.blank _)
    (isWhole_of_mem_keywords h'.declares).identifier (isApart_of_blank h'.apart h'.blank _)
  obtain ⟨rfl, hname⟩ := run_unique hsplit h.blank (hname.head_not_blank _) h'.blank
    (hname.head_not_blank _)
  obtain ⟨-, hblanks⟩ := List.cons.inj (List.append_cancel_left hname)
  exact ⟨rfl, rfl, (run_unique hblanks h.behind h.ends h'.behind h'.ends).1⟩

theorem declaration?_of_isDeclaration (hname : IsWhole name) {t keyword ws blanks rest : Text}
    (h : IsDeclaration name t keyword ws blanks rest) :
    declaration? name t = some (blanks, (keyword ++ ws ++ name ++ '<' :: blanks).length) := by
  have hsome : (declaration? name t).isSome := by
    refine List.findSome?_isSome_iff.2 ⟨keyword, h.declares, ?_⟩
    rw [h.split, stripStart?_eq_some.2 rfl]
    refine List.findSome?_isSome_iff.2 ⟨(ws, _), mem_blankSplits h.blank, ?_⟩
    have hopening : opening? name (name ++ '<' :: (blanks ++ rest)) = some (blanks, _) :=
      opening?_iff.2 ⟨rfl, h.behind, rest, h.ends, by simp⟩
    simp [h.apart, hopening]
  obtain ⟨⟨blanks', n⟩, hfound⟩ := Option.isSome_iff_exists.1 hsome
  obtain ⟨k', ws', rest', h', rfl⟩ := isDeclaration_of_declaration? hfound
  obtain ⟨rfl, rfl, rfl⟩ := h.unique hname h'
  exact hfound

/-- White space and a keyword stand in front, last one first. -/
def declares (front : Text) : Bool :=
  front.head?.any isBlank && keywords.contains (wordBefore (front.dropWhile isBlank))

theorem declares_iff {front : Text} :
    declares front = true ↔ ∃ keyword ws front', keyword ∈ keywords ∧ ws ≠ [] ∧
      (∀ c ∈ ws, isBlank c = true) ∧ front'.head?.any isWordChar = false ∧
      front = (keyword ++ ws).reverse ++ front' := by
  rw [declares, Bool.and_eq_true, List.contains_iff_mem]
  constructor
  · rintro ⟨hhead, hkeyword⟩
    obtain ⟨front', hdrop, hfront'⟩ :=
      (wordBefore_eq_iff (isIdentifier_of_mem_keywords _ hkeyword).word).1 rfl
    refine ⟨_, (front.takeWhile isBlank).reverse, front', hkeyword, ?_, ?_, hfront', ?_⟩
    · cases front with
      | nil => cases hhead
      | cons c front =>
        have hc : isBlank c = true := by simpa using hhead
        simp [hc]
    · exact fun c hc => all_takeWhile c (List.mem_reverse.1 hc)
    · rw [List.reverse_append, List.reverse_reverse, List.append_assoc, ← hdrop,
        List.takeWhile_append_dropWhile]
  · rintro ⟨keyword, ws, front', hkeyword, hne, hws, hfront', rfl⟩
    have hword := isIdentifier_of_mem_keywords _ hkeyword
    have hhead : (keyword.reverse ++ front').head?.any isBlank = false :=
      hword.reverse.head_not_blank _
    rw [List.reverse_append, List.append_assoc, (takeWhile_of_run (by simpa using hws) hhead).2,
      (wordBefore_eq_iff hword.word).2 ⟨front', rfl, hfront'⟩]
    refine ⟨?_, hkeyword⟩
    cases hrev : ws.reverse with
    | nil => exact absurd (List.reverse_eq_nil_iff.1 hrev) hne
    | cons c ws' =>
      have hc : c ∈ ws := by
        rw [← List.mem_reverse, hrev]
        exact .head _
      simpa using hws c hc

theorem head_word_of_declares {front : Text} (h : declares front = true) :
    front.head?.any isWordChar = false := by
  obtain ⟨keyword, ws, front', -, hne, hws, -, rfl⟩ := declares_iff.1 h
  rw [List.reverse_append, List.append_assoc]
  exact head_not_word (by simpa using hne) (fun c hc => hws c (List.mem_reverse.1 hc)) _

/-! ## The searches -/

/-- For a name in front of `<`, whether the builder is declared there. It is found behind a keyword,
and where a word starts or ends. -/
def openingKind? (name back : Text) : Option Bool :=
  (stripStart? name.reverse back).bind fun front =>
    if declares front then some true else if atWordBoundary front name then some false else none

/-- The number of characters of the name, and of the keyword and the white space in front. -/
def openingLead (name back : Text) : Nat :=
  name.length + ((stripStart? name.reverse back).filter declares).elim 0 fun front =>
    (front.takeWhile isBlank).length + (wordBefore (front.dropWhile isBlank)).length

/-- For the name of a query type in front of `<`, where a word starts or ends. -/
def usageKind? (name back : Text) : Option Unit :=
  (stripStart? name.reverse back).bind fun front =>
    if atWordBoundary front name then some () else none

theorem openingKind?_append (name front : Text) :
    openingKind? name (name.reverse ++ front) =
      if declares front then some true else if atWordBoundary front name then some false else none := by
  rw [openingKind?, stripStart?_eq_some.2 rfl]
  rfl

theorem exists_of_openingKind? {back : Text} {k : Bool} (h : openingKind? name back = some k) :
    ∃ front, back = name.reverse ++ front ∧ k = declares front ∧
      (declares front = false → atWordBoundary front name = true) := by
  obtain ⟨front, hstrip, h⟩ := Option.bind_eq_some_iff.1 h
  refine ⟨front, stripStart?_eq_some.1 hstrip, ?_⟩
  cases hdeclares : declares front with
  | true =>
    rw [if_pos hdeclares] at h
    exact ⟨(Option.some.inj h).symm, fun hfalse => nomatch hfalse⟩
  | false =>
    rw [if_neg (by simp [hdeclares])] at h
    split at h
    · rename_i hbound
      exact ⟨(Option.some.inj h).symm, fun _ => hbound⟩
    · cases h

theorem usageKind?_eq_some {back : Text} {k : Unit} :
    usageKind? name back = some k ↔
      ∃ front, back = name.reverse ++ front ∧ atWordBoundary front name = true := by
  constructor
  · intro h
    obtain ⟨front, hstrip, h⟩ := Option.bind_eq_some_iff.1 h
    split at h
    · rename_i hbound
      exact ⟨front, stripStart?_eq_some.1 hstrip, hbound⟩
    · cases h
  · rintro ⟨front, rfl, hbound⟩
    rw [usageKind?, stripStart?_eq_some.2 rfl, Option.bind_some, if_pos hbound]

theorem openingLead_of_not_declares {front : Text} (h : declares front = false) :
    openingLead name (name.reverse ++ front) = name.length := by
  have hnone : (some front).filter declares = none := Option.filter_some_neg (by simp [h])
  rw [openingLead, stripStart?_eq_some.2 rfl, hnone]
  rfl

/-- What is covered of a declaration in front of `<`. -/
theorem openingLead_of_declares (name : Text) {keyword ws front : Text} (hkeyword : keyword ∈ keywords)
    (hne : ws ≠ []) (hws : ∀ c ∈ ws, isBlank c = true) (hfront : front.head?.any isWordChar = false) :
    openingKind? name (name.reverse ++ ((keyword ++ ws).reverse ++ front)) = some true ∧
      openingLead name (name.reverse ++ ((keyword ++ ws).reverse ++ front)) =
        (keyword ++ ws ++ name).length := by
  have hdeclares : declares ((keyword ++ ws).reverse ++ front) = true :=
    declares_iff.2 ⟨keyword, ws, front, hkeyword, hne, hws, hfront, rfl⟩
  have hws' : ∀ c ∈ ws.reverse, isBlank c = true := fun c hc => hws c (List.mem_reverse.1 hc)
  have hword := isIdentifier_of_mem_keywords keyword hkeyword
  have hkey : (keyword.reverse ++ front).head?.any isBlank = false :=
    hword.reverse.head_not_blank _
  refine ⟨by rw [openingKind?_append, if_pos hdeclares], ?_⟩
  rw [openingLead, stripStart?_eq_some.2 rfl, Option.filter_some, if_pos hdeclares, Option.elim_some,
    List.reverse_append, List.append_assoc, (takeWhile_of_run hws' hkey).1,
    (takeWhile_of_run hws' hkey).2, (wordBefore_eq_iff hword.word).2 ⟨front, rfl, hfront⟩]
  simp only [List.length_append, List.length_reverse]
  omega

theorem exists_cons_of_isWhole (hname : IsWhole name) :
    ∃ c l, name = c :: l ∧ '<' ∉ c :: l ∧ isBlank c = false := by
  obtain ⟨c, l, rfl⟩ := List.exists_cons_of_ne_nil hname.ne_nil
  exact ⟨c, l, rfl, hname.notMem (by decide), by simpa using hname.head_not_blank []⟩

theorem leads_usages (hname : IsWhole name) : Leads (usageKind? name) fun _ => name.length := by
  intro back k hk
  obtain ⟨front, rfl, -⟩ := usageKind?_eq_some.1 hk
  obtain ⟨c, l, rfl, hnot, hc⟩ := exists_cons_of_isWhole hname
  exact ⟨c, l, front, rfl, rfl, hnot, hc⟩

/-- **The search for a query type** finds its name in front of `<`. -/
theorem places_usages (hname : IsWhole name) :
    Places (querySite name) (fun before after => (lookBack (usageKind? name) before after).map (·.2))
      (reachOf fun _ => name.length) := by
  refine places_of_leads (leads_usages hname) _ ?_ ?_
  · intro before after blanks n h
    rw [querySite] at h
    split at h
    · rename_i hbound
      obtain ⟨rfl, hblanks, rest, hrest, rfl⟩ := opening?_iff.1 h
      rw [List.append_assoc, hname.atWordBoundary] at hbound
      refine ⟨name, blanks, rest, rfl, rfl, hblanks, hrest, ?_, Nat.le_refl _⟩
      rw [usageKind?_eq_some (k := ()).2 ⟨before, rfl, hbound⟩]
      rfl
    · cases h
  · intro before l blanks rest k hblanks hrest hk hlead
    obtain ⟨front, hfront, hbound⟩ := usageKind?_eq_some.1 hk
    obtain ⟨rfl, rfl⟩ := front_unique hfront hlead.symm
    rw [querySite, List.append_assoc, hname.atWordBoundary, if_pos hbound, ← List.append_assoc]
    exact opening?_iff.2 ⟨rfl, hblanks, rest, hrest, rfl⟩

/-- A keyword is followed by white space, but the name in front of `<` is not. -/
theorem declaration?_of_opening (hname : IsWhole name) (rest : Text) :
    declaration? name (name ++ '<' :: rest) = none := by
  refine Option.eq_none_iff_forall_ne_some.2 fun found hfound => ?_
  obtain ⟨keyword, ws, rest', hdecl, -⟩ := isDeclaration_of_declaration? hfound
  obtain ⟨-, hws⟩ := append_inj_of_isApart hdecl.split hname.identifier
    (isApart_of_foreign (by decide)) (isWhole_of_mem_keywords hdecl.declares).identifier
    (isApart_of_blank hdecl.apart hdecl.blank _)
  obtain ⟨c, ws, rfl⟩ := List.exists_cons_of_ne_nil hdecl.apart
  obtain ⟨rfl, -⟩ := List.cons.inj hws
  exact notMem_of_isBlank hdecl.blank (.head _)

/-- Where a word may start, the builder is found as declared behind a keyword. -/
theorem builderSite_of_isDeclaration (hname : IsWhole name)
    {before t keyword ws blanks rest : Text} (hbefore : before.head?.any isWordChar = false)
    (h : IsDeclaration name t keyword ws blanks rest) :
    builderSite name before t =
      some (⟨true, blanks⟩, (keyword ++ ws ++ name ++ '<' :: blanks).length) := by
  have hbound : atWordBoundary before t = true := by
    rw [h.split, (isIdentifier_of_mem_keywords _ h.declares).atWordBoundary, hbefore]
    rfl
  rw [builderSite, if_pos hbound, declaration?_of_isDeclaration hname h]
  rfl

/-- Where a word starts or ends, the builder is found as referred to in front of `<`. -/
theorem builderSite_of_opening (hname : IsWhole name) {before blanks rest : Text}
    (hbound : atWordBoundary before name = true) (hblanks : ∀ c ∈ blanks, isBlank c = true)
    (hrest : rest.head?.any isBlank = false) :
    builderSite name before (name ++ '<' :: blanks ++ rest) =
      some (⟨false, blanks⟩, (name ++ '<' :: blanks).length) := by
  have hbound' : atWordBoundary before (name ++ '<' :: blanks ++ rest) = true := by
    rw [List.append_assoc, hname.atWordBoundary, hbound]
  have hnone : declaration? name (name ++ '<' :: blanks ++ rest) = none := by
    rw [List.append_assoc]
    exact declaration?_of_opening hname (blanks ++ rest)
  rw [builderSite, if_pos hbound', hnone, opening?_iff.2 ⟨rfl, hblanks, rest, hrest, rfl⟩]
  rfl

theorem leads_openings (hname : IsWhole name) : Leads (openingKind? name) (openingLead name) := by
  intro back k hk
  obtain ⟨front, rfl, -⟩ := exists_of_openingKind? hk
  cases hdeclares : declares front with
  | true =>
    obtain ⟨keyword, ws, front, hkeyword, hne, hws, hfront, rfl⟩ := declares_iff.1 hdeclares
    have hkey := isWhole_of_mem_keywords hkeyword
    have hnot : '<' ∉ keyword ++ ws ++ name := by
      simp only [List.mem_append, not_or]
      exact ⟨⟨hkey.notMem (by decide), notMem_of_isBlank hws⟩, hname.notMem (by decide)⟩
    rw [(openingLead_of_declares name hkeyword hne hws hfront).2]
    obtain ⟨c, l, hkl⟩ := List.exists_cons_of_ne_nil hkey.ne_nil
    have hc : isBlank c = false := by simpa [hkl] using hkey.head_not_blank []
    rw [hkl, List.append_assoc, List.cons_append] at hnot ⊢
    exact ⟨c, l ++ (ws ++ name), front, by simp, rfl, hnot, hc⟩
  | false =>
    rw [openingLead_of_not_declares hdeclares]
    obtain ⟨c, l, rfl, hnot, hc⟩ := exists_cons_of_isWhole hname
    exact ⟨c, l, front, rfl, rfl, hnot, hc⟩

/-- **The search for the builder** finds its name in front of `<`, and a declaration where a keyword
stands in front of the name. -/
theorem places_openings (hname : IsWhole name) :
    Places (builderSite name)
      (fun before after => (lookBack (openingKind? name) before after).map fun x => ⟨x.1, x.2⟩)
      (reachOf (openingLead name)) := by
  refine places_of_leads (leads_openings hname) _ ?_ ?_
  · intro before after o n h
    rw [builderSite] at h
    split at h
    · rename_i hbound
      rcases Option.or_eq_some_iff.1 h with h | ⟨-, h⟩
      · obtain ⟨⟨blanks, m⟩, hd, h⟩ := Option.map_eq_some_iff.1 h
        obtain ⟨rfl, rfl⟩ := Prod.mk.inj h
        obtain ⟨keyword, ws, rest, hdecl, rfl⟩ := isDeclaration_of_declaration? hd
        rw [hdecl.split, (isIdentifier_of_mem_keywords _ hdecl.declares).atWordBoundary,
          Bool.not_eq_true'] at hbound
        obtain ⟨hkind, hlead⟩ :=
          openingLead_of_declares name hdecl.declares hdecl.apart hdecl.blank hbound
        have hsplit : (keyword ++ ws ++ name).reverse ++ before =
            name.reverse ++ ((keyword ++ ws).reverse ++ before) := by simp
        refine ⟨keyword ++ ws ++ name, blanks, rest, by simp [hdecl.split], rfl, hdecl.behind,
          hdecl.ends, ?_, ?_⟩
        · rw [hsplit, hkind]
          rfl
        · exact Nat.le_of_eq (hsplit ▸ hlead.symm)
      · obtain ⟨⟨blanks, m⟩, ho, h⟩ := Option.map_eq_some_iff.1 h
        obtain ⟨rfl, rfl⟩ := Prod.mk.inj h
        obtain ⟨rfl, hblanks, rest, hrest, rfl⟩ := opening?_iff.1 ho
        rw [List.append_assoc, hname.atWordBoundary] at hbound
        refine ⟨name, blanks, rest, rfl, rfl, hblanks, hrest, ?_, Nat.le_add_right _ _⟩
        rw [openingKind?_append, if_pos hbound]
        split <;> rfl
    · cases h
  · intro before l blanks rest k hblanks hrest hk hlead
    obtain ⟨front, hfront, rfl, hbound⟩ := exists_of_openingKind? hk
    rw [hfront] at hlead
    cases hdeclares : declares front with
    | true =>
      obtain ⟨keyword, ws, front, hkeyword, hne, hws, hends, rfl⟩ := declares_iff.1 hdeclares
      rw [(openingLead_of_declares name hkeyword hne hws hends).2] at hlead
      have hsplit : name.reverse ++ ((keyword ++ ws).reverse ++ front) =
          (keyword ++ ws ++ name).reverse ++ front := by simp
      rw [hsplit] at hfront
      obtain ⟨rfl, rfl⟩ := front_unique hfront hlead.symm
      exact builderSite_of_isDeclaration hname hends
        ⟨hkeyword, hne, hws, hblanks, hrest, by simp⟩
    | false =>
      rw [openingLead_of_not_declares hdeclares] at hlead
      obtain ⟨rfl, rfl⟩ := front_unique hfront hlead.symm
      exact builderSite_of_opening hname (hbound hdeclares) hblanks hrest

/-! ## Names that are words -/

/-- For the name of the builder in front of `<`, whether it is declared there. -/
def builderKind? (name back : Text) : Option Bool :=
  if wordBefore back = name then some (declares (back.dropWhile isWordChar)) else none

/-- For the name of a query type in front of `<`. -/
def queryKind? (name back : Text) : Option Unit := if wordBefore back = name then some () else none

/-- A name that is a word is the word in front. -/
theorem wordBefore_eq_iff_atWordBoundary (hname : IsIdentifier name) {back : Text} :
    wordBefore back = name ↔ ∃ front, back = name.reverse ++ front ∧
      atWordBoundary front name = true := by
  have hbound : ∀ front, atWordBoundary front name = !front.head?.any isWordChar := by
    intro front
    have hbound : atWordBoundary front (name ++ []) = !front.head?.any isWordChar :=
      hname.atWordBoundary []
    rwa [List.append_nil] at hbound
  simp only [wordBefore_eq_iff hname.word, hbound, Bool.not_eq_true']

theorem usageKind?_of_word (hname : IsIdentifier name) : usageKind? name = queryKind? name := by
  funext back
  refine Option.ext fun k => ?_
  rw [queryKind?, usageKind?_eq_some, ← wordBefore_eq_iff_atWordBoundary hname]
  split <;> simp_all

theorem openingKind?_of_word (hname : IsIdentifier name) : openingKind? name = builderKind? name := by
  funext back
  rw [builderKind?]
  split
  · rename_i hword
    obtain ⟨front, rfl, hbound⟩ := (wordBefore_eq_iff_atWordBoundary hname).1 hword
    obtain ⟨front', hsame, hhead⟩ := (wordBefore_eq_iff hname.word).1 hword
    obtain rfl := List.append_cancel_left hsame
    rw [openingKind?_append, dropWhile_of_word hname.word hhead, if_pos hbound]
    cases declares front <;> rfl
  · rename_i hword
    refine Option.eq_none_iff_forall_ne_some.2 fun k hk => ?_
    obtain ⟨front, rfl, rfl, hbound⟩ := exists_of_openingKind? hk
    cases hdeclares : declares front with
    | false => exact hword ((wordBefore_eq_iff_atWordBoundary hname).2 ⟨front, rfl, hbound hdeclares⟩)
    | true =>
      exact hword ((wordBefore_eq_iff hname.word).2 ⟨front, rfl, head_word_of_declares hdeclares⟩)

theorem places_query (hname : IsIdentifier name) :
    Places (querySite name) (fun before after => (lookBack (queryKind? name) before after).map (·.2))
      (reachOf fun _ => name.length) := by
  rw [← usageKind?_of_word hname]
  exact places_usages hname.isWhole

theorem places_builder (hname : IsIdentifier name) :
    Places (builderSite name)
      (fun before after => (lookBack (builderKind? name) before after).map fun x => ⟨x.1, x.2⟩)
      (reachOf (openingLead name)) := by
  rw [← openingKind?_of_word hname]
  exact places_openings hname.isWhole

end Generics

end Multidialect
