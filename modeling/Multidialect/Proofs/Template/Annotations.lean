import Multidialect.Proofs.Template.WholeNames

/-! # Annotations gain their arguments once

Arguments are put in behind a session type where an annotation ends that has none (`EndsBare`). What
is put in starts with `<` and ends with `>`, so that an annotation has arguments from then on, and no
annotation can be read across it: looking back from a place in the new text shows what was there
before, up to the first bracket (`ReadsBack`). As the arguments hold no such annotation themselves,
nothing is left to do a second time (`Session.addParams_once`).
-/

namespace Multidialect

namespace Text

/-! ## Where nothing is found -/

section Cuts

variable {α : Type} {look : Text → Text → Option α}

theorem map_fst_annotate (look : Text → Text → α) (before t : Text) :
    (annotate look before t).map (·.1) = t := by
  induction t generalizing before with
  | nil => rfl
  | cons c cs ih => rw [annotate, List.map_cons, ih]

theorem withInsertions_of_none {marks : List (Char × Option α)} (f : α → Text)
    (h : marks.filterMap (·.2) = []) : withInsertions f marks = marks.map (·.1) := by
  have hnone : ∀ mark ∈ marks, mark.2 = none := List.filterMap_eq_nil_iff.1 h
  rw [withInsertions, ← List.flatMap_pure_eq_map]
  refine List.flatMap_congr fun mark hm => ?_
  rw [hnone mark hm]
  rfl

theorem filterMap_annotate_eq_nil {before t : Text} :
    (annotate look before t).filterMap (·.2) = [] ↔
      ∀ u v, t = u ++ v → u ≠ [] → look (u.reverse ++ before) v = none := by
  induction t generalizing before with
  | nil => simp [annotate]
  | cons c cs ih =>
    rw [annotate, List.filterMap_eq_nil_iff, List.forall_mem_cons, ← List.filterMap_eq_nil_iff, ih]
    constructor
    · rintro ⟨hfirst, hrest⟩ u v huv hu
      obtain ⟨d, u, rfl⟩ := List.exists_cons_of_ne_nil hu
      obtain ⟨rfl, rfl⟩ := List.cons.inj huv
      rw [List.reverse_cons, List.append_assoc]
      cases u with
      | nil => exact hfirst
      | cons e u => exact hrest _ v rfl (List.cons_ne_nil e u)
    · intro h
      refine ⟨h [c] cs rfl (List.cons_ne_nil c []), fun u v huv _ => ?_⟩
      have hnone := h (c :: u) v (by rw [huv]; rfl) (List.cons_ne_nil c u)
      rwa [List.reverse_cons, List.append_assoc] at hnone

end Cuts

/-- Nothing but white space stands in front of the character. -/
theorem head?_trimStart_eq_some {t : Text} {d : Char} (hd : isBlank d = false) :
    (trimStart t).head? = some d ↔ ∃ ws rest, (∀ c ∈ ws, isBlank c = true) ∧ t = ws ++ d :: rest := by
  constructor
  · intro h
    obtain ⟨rest, hrest⟩ := List.head?_eq_some_iff.1 h
    exact ⟨_, rest, all_takeWhile, by rw [← hrest, takeWhile_append_trimStart]⟩
  · rintro ⟨ws, rest, hws, rfl⟩
    rw [trimStart, (takeWhile_of_run hws (by simp [hd])).2]
    rfl

/-- What stands in front of a place in `made`, up to the first bracket, stands there in `before`. -/
def ReadsBack (made before : Text) : Prop :=
  ∀ p, '<' ∉ p → '>' ∉ p → p <+: made → p <+: before

namespace ReadsBack

variable {made before : Text}

theorem refl (t : Text) : ReadsBack t t := fun _ _ _ h => h

theorem cons (h : ReadsBack made before) (c : Char) : ReadsBack (c :: made) (c :: before) := by
  intro p hopen hclose hp
  cases p with
  | nil => exact List.nil_prefix
  | cons d p =>
    obtain ⟨rfl, hrest⟩ := List.cons_prefix_cons.1 hp
    have hp := h p (fun hm => hopen (.tail _ hm)) (fun hm => hclose (.tail _ hm)) hrest
    exact List.cons_prefix_cons.2 ⟨rfl, hp⟩

/-- Nothing is read beyond a closing bracket. -/
theorem closed (front before : Text) : ReadsBack ('>' :: front) before := by
  intro p _ hclose hp
  cases p with
  | nil => exact List.nil_prefix
  | cons d p =>
    obtain ⟨rfl, -⟩ := List.cons_prefix_cons.1 hp
    exact absurd (.head _) hclose

/-- Nothing is read beyond an opening bracket. -/
theorem opened (t front : Text) : ReadsBack (t ++ '<' :: front) t := by
  intro p hopen _ hp
  refine (List.prefix_or_prefix_of_prefix hp (List.prefix_append t _)).elim id fun ht => ?_
  obtain ⟨rest, rfl⟩ := ht
  have hrest := (List.prefix_append_right_inj t).1 hp
  cases rest with
  | nil => simp
  | cons d rest =>
    obtain ⟨rfl, -⟩ := List.cons_prefix_cons.1 hrest
    simp at hopen

end ReadsBack

end Text

namespace Session

open Text

variable {session params : Text}

/-- Type arguments. -/
def arguments (params : Text) : Text := '<' :: params ++ ['>']

/-- An annotation without type arguments ends between `front` and `back`. -/
structure EndsBare (session front back : Text) : Prop where
  annotation : ∃ lead ws, front = lead ++ ':' :: ws ++ session ∧ ∀ c ∈ ws, isBlank c = true
  bound : atWordBoundary front.reverse back = true
  bare : ∀ ws rest, (∀ c ∈ ws, isBlank c = true) → back ≠ ws ++ '<' :: rest

theorem bare?_iff_endsBare (front back : Text) :
    bare? session front.reverse back = some () ↔ EndsBare session front back := by
  have hcolon : isBlank ':' = false := by decide
  have hopen : isBlank '<' = false := by decide
  rw [bare?_eq_some]
  constructor
  · rintro ⟨more, hfront, hmore, hbound, hbare⟩
    obtain ⟨ws, lead, hws, rfl⟩ := (head?_trimStart_eq_some hcolon).1 hmore
    refine ⟨⟨lead.reverse, ws.reverse, ?_, fun c hc => hws c (List.mem_reverse.1 hc)⟩, hbound, ?_⟩
    · rw [← front.reverse_reverse, hfront]
      simp
    · rintro ws' rest hws' rfl
      exact hbare ((head?_trimStart_eq_some hopen).2 ⟨ws', rest, hws', rfl⟩)
  · rintro ⟨⟨lead, ws, rfl, hws⟩, hbound, hbare⟩
    refine ⟨ws.reverse ++ ':' :: lead.reverse, by simp, ?_, hbound, fun hhead => ?_⟩
    · exact (head?_trimStart_eq_some hcolon).2
        ⟨ws.reverse, lead.reverse, fun c hc => hws c (List.mem_reverse.1 hc), rfl⟩
    · obtain ⟨ws', rest, hws', rfl⟩ := (head?_trimStart_eq_some hopen).1 hhead
      exact hbare ws' rest hws' rfl

/-- The text behind `before`, with arguments at its annotations. -/
def annotated (session params before t : Text) : Text :=
  withInsertions (fun _ => arguments params) (annotate (bare? session) before t)

theorem addParams_eq_annotated (hsession : IsWhole session) (params t : Text) :
    addParams session params t = annotated session params [] t :=
  addParams_eq hsession params t

theorem annotated_cons (session params before cs : Text) (c : Char) :
    annotated session params before (c :: cs) =
      c :: ((bare? session (c :: before) cs).elim [] fun _ => arguments params) ++
        annotated session params (c :: before) cs := by
  simp [annotated, annotate, withInsertions]

section Once

variable (hsession : IsWhole session)
include hsession

/-- The annotations that are counted are those where arguments are put in. -/
theorem bareCount_eq (t : Text) :
    bareCount session t = ((annotate (bare? session) [] t).filterMap (·.2)).length := by
  have hany : ∀ b a, (lookFrom ':' (site session) b a).any (!·) =
      (bare? session b a).any fun _ => true := by
    intro b a
    have hiff := lookFrom_iff_bare? hsession b a
    cases hlook : lookFrom ':' (site session) b a with
    | none => cases hbare : bare? session b a <;> simp_all
    | some x => cases x <;> cases hbare : bare? session b a <;> simp_all
  have hsites := (places_lookFrom (startsAt_site hsession)).sites_eq t
  rw [bareCount, hsites, ← List.countP_eq_length_filter, countP_annotate_congr hany,
    List.countP_true]

/-- An annotation ends with a character of the name. -/
theorem bare?_of_foreign {c : Char} (hc : isIdentifierChar c = false) (before after : Text) :
    bare? session (c :: before) after = none := by
  refine Option.eq_none_iff_forall_ne_some.2 fun k hk => ?_
  obtain ⟨back, hback, -⟩ := bare?_eq_some.1 hk
  exact hsession.reverse.ne_append hc before back hback

/-- An annotation that ends in the new text ended there before. -/
theorem bare?_of_readsBack {made before y y' : Text} (hread : ReadsBack made before)
    (hword : y.head?.any isWordChar = y'.head?.any isWordChar)
    (hopen : (trimStart y').head? = some '<' → (trimStart y).head? = some '<')
    (h : bare? session made y = some ()) : bare? session before y' = some () := by
  have hcolon : isBlank ':' = false := by decide
  obtain ⟨back, rfl, hback, hbound, hbare⟩ := bare?_eq_some.1 h
  obtain ⟨ws, lead, hws, rfl⟩ := (head?_trimStart_eq_some hcolon).1 hback
  have hbracket : ∀ d, isIdentifierChar d = false → isBlank d = false → d ≠ ':' →
      d ∉ session.reverse ++ (ws ++ [':']) := by
    intro d hd hdblank hdcolon hm
    simp only [List.mem_append, List.mem_singleton] at hm
    rcases hm with hm | hm | hm
    · exact hsession.reverse.notMem hd hm
    · rw [hws d hm] at hdblank
      cases hdblank
    · exact hdcolon hm
  have hprefix : session.reverse ++ (ws ++ [':']) <+: session.reverse ++ (ws ++ ':' :: lead) :=
    ⟨lead, by simp⟩
  obtain ⟨rest, rfl⟩ := hread _ (hbracket '<' (by decide) (by decide) (by decide))
    (hbracket '>' (by decide) (by decide) (by decide)) hprefix
  refine bare?_eq_some.2 ⟨ws ++ ':' :: rest, by simp, ?_, ?_, fun hhead => hbare (hopen hhead)⟩
  · exact (head?_trimStart_eq_some hcolon).2 ⟨ws, rest, hws, rfl⟩
  · obtain ⟨c, more, hlast⟩ := List.exists_cons_of_ne_nil hsession.reverse.ne_nil
    rw [hlast] at hbound ⊢
    rwa [atWordBoundary, List.append_assoc, List.cons_append, List.head?_cons, ← hword]

omit hsession in
theorem head?_annotated (before t : Text) : (annotated session params before t).head? = t.head? := by
  cases t with
  | nil => rfl
  | cons c cs => rw [annotated_cons]; rfl

/-- A list of arguments behind white space stays there. -/
theorem head?_trimStart_annotated {before t : Text} (h : (trimStart t).head? = some '<') :
    (trimStart (annotated session params before t)).head? = some '<' := by
  have hopen : isBlank '<' = false := by decide
  obtain ⟨ws, rest, hws, rfl⟩ := (head?_trimStart_eq_some hopen).1 h
  have hkept : ∃ rest', annotated session params before (ws ++ '<' :: rest) = ws ++ '<' :: rest' := by
    clear h
    induction ws generalizing before with
    | nil => exact ⟨_, annotated_cons session params before rest '<'⟩
    | cons c ws ih =>
      obtain ⟨hc, hws⟩ := List.forall_mem_cons.1 hws
      obtain ⟨rest', hrest⟩ := @ih (c :: before) hws
      have hforeign := isForeign_of_blank (List.forall_mem_singleton.2 hc) c (.head _)
      refine ⟨rest', ?_⟩
      rw [List.cons_append, annotated_cons, bare?_of_foreign hsession hforeign, hrest]
      rfl
  obtain ⟨rest', hrest⟩ := hkept
  exact (head?_trimStart_eq_some hopen).2 ⟨ws, rest', hws, hrest⟩

/-- No annotation without arguments ends in the arguments, if none ends in the parameters. -/
theorem bare?_arguments (hparams : bareCount session params = 0) {u v : Text}
    (h : arguments params = u ++ v) (hu : u ≠ []) (made rest : Text) :
    bare? session (u.reverse ++ made) (v ++ rest) = none := by
  rw [bareCount_eq hsession, List.length_eq_zero_iff, filterMap_annotate_eq_nil] at hparams
  have hwithin : ∀ x y, params = x ++ y →
      bare? session (x.reverse ++ '<' :: made) (y ++ '>' :: rest) = none := by
    intro x y hxy
    by_cases hx : x = []
    · rw [hx]
      exact bare?_of_foreign hsession (by decide) _ _
    · refine Option.eq_none_iff_forall_ne_some.2 fun k hk => ?_
      have hword : (y ++ '>' :: rest).head?.any isWordChar = y.head?.any isWordChar := by
        cases y with
        | nil => rfl
        | cons d y => rfl
      have hopen : (trimStart y).head? = some '<' →
          (trimStart (y ++ '>' :: rest)).head? = some '<' := by
        have hbracket : isBlank '<' = false := by decide
        rw [head?_trimStart_eq_some hbracket, head?_trimStart_eq_some hbracket]
        rintro ⟨ws, more, hws, rfl⟩
        exact ⟨ws, more ++ '>' :: rest, hws, by simp⟩
      have hfound := bare?_of_readsBack hsession (ReadsBack.opened x.reverse made) hword hopen hk
      rw [← List.append_nil x.reverse, hparams x y hxy hx] at hfound
      cases hfound
  obtain ⟨d, u, rfl⟩ := List.exists_cons_of_ne_nil hu
  obtain ⟨rfl, hsplit⟩ := List.cons.inj h
  rw [List.reverse_cons, List.append_assoc, List.singleton_append]
  -- The cut is within the parameters, or behind the closing bracket.
  rcases List.append_eq_append_iff.1 hsplit with ⟨more, rfl, hmore⟩ | ⟨more, rfl, rfl⟩
  · rcases List.append_eq_singleton_iff.1 hmore.symm with ⟨rfl, rfl⟩ | ⟨rfl, rfl⟩
    · simpa using hwithin params [] (by simp)
    · rw [List.reverse_append, List.append_assoc]
      exact bare?_of_foreign hsession (by decide) _ _
  · simpa using hwithin u more rfl

/-- Nor does one end in front of the arguments, or behind them if none does in what follows. -/
theorem bare?_arguments_append (hparams : bareCount session params = 0) {made rest x y : Text}
    (hrest : ∀ u v, rest = u ++ v → u ≠ [] →
      bare? session (u.reverse ++ ((arguments params).reverse ++ made)) v = none)
    (h : arguments params ++ rest = x ++ y) : bare? session (x.reverse ++ made) y = none := by
  by_cases hx : x = []
  · subst hx
    refine Option.eq_none_iff_forall_ne_some.2 fun k hk => ?_
    obtain ⟨-, -, -, -, hopen⟩ := bare?_eq_some.1 hk
    rw [List.nil_append] at h
    exact hopen (by rw [← h]; rfl)
  · rcases List.append_eq_append_iff.1 h with ⟨more, rfl, hmore⟩ | ⟨more, hargs, rfl⟩
    · by_cases hm : more = []
      · subst hm
        have hend := bare?_arguments hsession hparams (u := arguments params) (v := [])
          (by simp) (by simp [arguments]) made y
        simpa using hend
      · rw [List.reverse_append, List.append_assoc]
        exact hrest more y hmore hm
    · exact bare?_arguments hsession hparams hargs hx made _

/-- In the new text no annotation ends without arguments. -/
theorem bare?_annotated (hparams : bareCount session params = 0) {before made t x y : Text}
    (hread : ReadsBack made before) (h : annotated session params before t = x ++ y) (hx : x ≠ []) :
    bare? session (x.reverse ++ made) y = none := by
  induction t generalizing before made x y with
  | nil =>
    obtain ⟨rfl, -⟩ := List.append_eq_nil_iff.1 h.symm
    exact absurd rfl hx
  | cons c cs ih =>
    obtain ⟨d, x, rfl⟩ := List.exists_cons_of_ne_nil hx
    rw [annotated_cons, List.cons_append, List.cons_append] at h
    obtain ⟨rfl, hsame⟩ := List.cons.inj h
    rw [List.reverse_cons, List.append_assoc, List.singleton_append]
    have hnext := hread.cons c
    cases hbare : bare? session (c :: before) cs with
    | none =>
      rw [hbare] at hsame
      by_cases hx' : x = []
      · -- Nothing ended here, and the same stands around the place.
        subst hx'
        obtain rfl : annotated session params (c :: before) cs = y := hsame
        refine Option.eq_none_iff_forall_ne_some.2 fun k hk => ?_
        have hfound := bare?_of_readsBack hsession hnext (by rw [head?_annotated])
          (head?_trimStart_annotated hsession) hk
        rw [hbare] at hfound
        cases hfound
      · exact ih hnext hsame hx'
    | some k =>
      rw [hbare] at hsame
      have hclosed : ReadsBack ((arguments params).reverse ++ c :: made) (c :: before) := by
        have hlast : (arguments params).reverse = '>' :: (params.reverse ++ ['<']) := by
          simp [arguments]
        rw [hlast]
        exact .closed _ _
      exact bare?_arguments_append hsession hparams (fun _ _ huv hu => ih hclosed huv hu) hsame

end Once

/-- **Arguments are put in once.** What the first time does is to put them in behind the annotations
that have none, of which there are as many as are counted; in an annotation that has some nothing
changes. A second time nothing is found. The parameters may hold annotations that have arguments. -/
theorem addParams_once (hsession : NameFault.find? session = none)
    (hparams : bareCount session params = 0) (t : Text) :
    addParams session params (addParams session params t) = addParams session params t ∧
    bareCount session (addParams session params t) = 0 ∧
    addParams session params t =
      withInsertions (fun _ => arguments params) (annotate (bare? session) [] t) ∧
    bareCount session t = ((annotate (bare? session) [] t).filterMap (·.2)).length ∧
    ∀ front back, bare? session front.reverse back = some () ↔ EndsBare session front back := by
  have hwhole := NameFault.isWhole hsession
  have hnone : (annotate (bare? session) [] (addParams session params t)).filterMap (·.2) = [] := by
    refine filterMap_annotate_eq_nil.2 fun u v huv hu => ?_
    rw [addParams_eq_annotated hwhole] at huv
    exact bare?_annotated hwhole hparams (.refl []) huv hu
  refine ⟨?_, ?_, addParams_eq hwhole params t, bareCount_eq hwhole t, bare?_iff_endsBare⟩
  · rw [addParams_eq hwhole params (addParams session params t), withInsertions_of_none _ hnone,
      map_fst_annotate]
  · rw [bareCount_eq hwhole, hnone]
    rfl

/-- Parameters that hold an annotation, for a text in which one of two annotations has arguments. -/
theorem addParams_once_nested :
    let session := "PgSession".toList
    let params := "x: PgSession<T>".toList
    let t := "a: PgSession, b :PgSession\n <T>".toList
    NameFault.find? session = none ∧ bareCount session params = 0 ∧
      addParams session params t = "a: PgSession<x: PgSession<T>>, b :PgSession\n <T>".toList ∧
      addParams session params (addParams session params t) = addParams session params t := by
  intro session params t
  have hsession : NameFault.find? session = none := by decide
  have hparams : bareCount session params = 0 := by decide +kernel
  exact ⟨hsession, hparams, by decide +kernel, (addParams_once hsession hparams t).1⟩

end Session

end Multidialect
