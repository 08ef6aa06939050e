import Multidialect.Proofs.Template.WholeNames
import Multidialect.Template.Vocabulary
import Mathlib.Data.List.SplitBy

/-! # Renaming identifiers

A text is made of identifiers, each as long as can be, and the characters between them (`Text.runs`).
A rename is meant for the identifiers that are the name and for nothing else. The search looks in
front of the name for a character that belongs to no identifier, but behind it only for the end of a
word, and behind a name that ends with `$` for nothing. So an identifier that starts with the name is
renamed in part if it goes on with `$`, or if the name ends with it (`Vocabulary.renamed`); without
such identifiers the rename does what it is meant to (`Vocabulary.renames_whole_iff`).
-/

namespace Multidialect

namespace Text

/-! ## Identifiers and the characters between them -/

/-- The identifiers of a text, each as long as can be, and its other characters one by one. -/
def runs (t : Text) : List Text := t.splitBy fun a b => isIdentifierChar a && isIdentifierChar b

theorem runs_foreign {c : Char} (hc : isIdentifierChar c = false) (t : Text) :
    runs (c :: t) = [c] :: runs t := by
  have hsplit : runs ([c] ++ t) = runs [c] ++ runs t :=
    List.splitBy_append fun x hx _ _ => by
      obtain rfl : c = x := by simpa using hx
      simp [hc]
  exact hsplit

theorem runs_identifier {u v : Text} (hne : u ≠ []) (hu : ∀ c ∈ u, isIdentifierChar c = true)
    (hv : isApart v = true) : runs (u ++ v) = u :: runs v := by
  have hsplit : runs (u ++ v) = runs u ++ runs v :=
    List.splitBy_append fun _ _ y hy => by
      have hapart : isIdentifierChar y = false := by
        rw [isApart, Option.mem_def.1 hy] at hv
        simpa using hv
      simp [hapart]
  have hone : runs u = [u] :=
    List.splitBy_of_isChain hne <| List.Pairwise.isChain <|
      List.pairwise_of_forall_mem_list fun a ha b hb => by simp [hu a ha, hu b hb]
  rw [hsplit, hone]
  rfl

theorem isApart_dropWhile (t : Text) : isApart (t.dropWhile isIdentifierChar) = true := by
  rw [isApart, head?_dropWhile]
  rfl

/-- A text is built of identifiers and other characters. -/
@[elab_as_elim]
theorem runs_induction {P : Text → Prop} (nil : P [])
    (foreign : ∀ c t, isIdentifierChar c = false → P t → P (c :: t))
    (identifier : ∀ u v, u ≠ [] → (∀ c ∈ u, isIdentifierChar c = true) → isApart v = true →
      P v → P (u ++ v)) (t : Text) : P t := by
  induction hlen : t.length using Nat.strongRecOn generalizing t with
  | ind len ih =>
    cases t with
    | nil => exact nil
    | cons c cs =>
      cases hc : isIdentifierChar c with
      | false => exact foreign c cs hc (ih cs.length (by rw [← hlen]; exact Nat.lt_succ_self _) cs rfl)
      | true =>
        have hsplit : (c :: cs).takeWhile isIdentifierChar ++ (c :: cs).dropWhile isIdentifierChar =
            c :: cs := List.takeWhile_append_dropWhile
        have hne : (c :: cs).takeWhile isIdentifierChar ≠ [] := by simp [hc]
        have hlt : ((c :: cs).dropWhile isIdentifierChar).length < len := by
          rw [← hlen, List.dropWhile_cons, if_pos hc]
          exact Nat.lt_succ_of_le (List.dropWhile_sublist _).length_le
        rw [← hsplit]
        exact identifier _ _ hne all_takeWhile (isApart_dropWhile _) (ih _ hlt _ rfl)

/-- Of a text that starts within an identifier, the rest of the identifier is changed first. -/
theorem flatMap_runs_eq {f : Text → Text} (hf : f [] = []) (t : Text) :
    (runs t).flatMap f =
      f (t.takeWhile isIdentifierChar) ++ (runs (t.dropWhile isIdentifierChar)).flatMap f := by
  by_cases hw : t.takeWhile isIdentifierChar = []
  · have hdrop := t.takeWhile_append_dropWhile (p := isIdentifierChar)
    rw [hw, List.nil_append] at hdrop
    rw [hw, hf, hdrop]
    rfl
  · conv_lhs => rw [← t.takeWhile_append_dropWhile (p := isIdentifierChar)]
    rw [runs_identifier hw all_takeWhile (isApart_dropWhile t), List.flatMap_cons]

/-- An exchange of identifiers, which leaves the other characters alone. -/
structure ActsOnIdentifiers (f : Text → Text) : Prop where
  foreign : ∀ c, isIdentifierChar c = false → f [c] = [c]
  identifier : ∀ u, (∀ c ∈ u, isIdentifierChar c = true) → ∀ c ∈ f u, isIdentifierChar c = true

theorem ActsOnIdentifiers.isApart {f : Text → Text} (hf : ActsOnIdentifiers f) {t : Text}
    (ht : isApart t = true) : Text.isApart ((runs t).flatMap f) = true := by
  cases t with
  | nil => rfl
  | cons c cs =>
    have hc : isIdentifierChar c = false := by simpa [isApart_cons] using ht
    rw [runs_foreign hc, List.flatMap_cons, hf.foreign c hc]
    exact isApart_of_foreign hc

/-- What becomes of a text tells what becomes of each of its identifiers. -/
theorem flatMap_runs_eq_iff {f g : Text → Text} (hf : ActsOnIdentifiers f)
    (hg : ActsOnIdentifiers g) (t : Text) :
    (runs t).flatMap f = (runs t).flatMap g ↔ ∀ run ∈ runs t, f run = g run := by
  induction t using runs_induction with
  | nil => simp [runs]
  | foreign c t hc ih =>
    rw [runs_foreign hc, List.flatMap_cons, List.flatMap_cons, List.forall_mem_cons,
      hf.foreign c hc, hg.foreign c hc, ← ih]
    simp
  | identifier u v hne hu hv ih =>
    rw [runs_identifier hne hu hv, List.flatMap_cons, List.flatMap_cons, List.forall_mem_cons, ← ih]
    constructor
    · intro h
      exact append_inj_of_isApart h (hf.identifier u hu) (hf.isApart hv) (hg.identifier u hu)
        (hg.isApart hv)
    · rintro ⟨hfirst, hrest⟩
      rw [hfirst, hrest]

end Text

namespace Vocabulary

open Text

variable {source target : Text}

/-! ## What the search renames -/

/-- Whether a rename takes its name to end in front of `rest`, which goes on as an identifier. -/
def stops (source rest : Text) : Bool :=
  rest == [] || rest.head? == some '$' || source.getLast? == some '$'

/-- What becomes of an identifier. -/
def renamed (source target run : Text) : Text :=
  match stripStart? source run with
  | some rest => if stops source rest then target ++ rest else run
  | none => run

theorem endsInWord_iff (hsource : NameFault.find? source = none) :
    endsInWord source = true ↔ source.getLast? ≠ some '$' := by
  have hlast : ∀ c, NameFault.canFollow c = true → (isTagChar c = true ↔ c ≠ '$') := by
    intro c hc
    exact Unicode.forall_ascii
      (P := fun c => NameFault.canFollow c = true → (isTagChar c = true ↔ c ≠ '$'))
      (by decide +kernel) (NameFault.toNat_lt_of_canFollow hc) hc
  have hne := (NameFault.isWhole hsource).ne_nil
  rw [endsInWord, List.getLast?_eq_some_getLast hne]
  simpa using hlast _ (NameFault.canFollow_of_mem hsource (List.getLast_mem hne))

/-- Behind a name that ends in a word, another one must not go on. -/
theorem identifier?_append (hsource : NameFault.find? source = none) (lead before rest : Text) :
    identifier? source lead before (source ++ rest) =
      if rest.head?.any isWordChar && source.getLast? != some '$' then none
      else some (lead, lead.length + source.length) := by
  have hwhole := NameFault.isWhole hsource
  have hends : endsInWord source = (source.getLast? != some '$') := by
    rw [Bool.eq_iff_iff, endsInWord_iff hsource, bne_iff_ne]
  rw [identifier?, stripStart?_eq_some.2 rfl, Option.bind_eq_bind, Option.bind_some, hends]
  cases hdollar : source.getLast? != some '$' with
  | false => simp
  | true =>
    obtain ⟨c, front, hlast⟩ := List.exists_cons_of_ne_nil hwhole.reverse.ne_nil
    have hc : isIdentifierChar c = true := hwhole.reverse.identifier c (by simp [hlast])
    have hword : isWordChar c = true := by
      refine (isWordChar_iff hc).2 ?_
      rintro rfl
      rw [← List.head?_reverse, hlast] at hdollar
      simp at hdollar
    simp [hlast, atWordBoundary, hword]

section Runs

variable {w v : Text} (hw : ∀ c ∈ w, isIdentifierChar c = true) (hv : isApart v = true)
include hw hv

/-- A name at the front of an identifier is a part of it. -/
theorem stripStart?_run (hsource : IsWhole source) :
    stripStart? source (w ++ v) = (stripStart? source w).map (· ++ v) := by
  refine Option.ext fun rest => ?_
  rw [stripStart?_eq_some, Option.map_eq_some_iff]
  constructor
  · intro h
    rcases List.append_eq_append_iff.1 h with ⟨more, rfl, rfl⟩ | ⟨more, rfl, rfl⟩
    · -- Nothing of the name stands behind the identifier.
      cases more with
      | nil => exact ⟨[], stripStart?_eq_some.2 (by simp), rfl⟩
      | cons c more =>
        have hc := hsource.identifier c (by simp)
        rw [List.cons_append, isApart_cons, hc] at hv
        cases hv
    · exact ⟨more, stripStart?_eq_some.2 rfl, rfl⟩
  · rintro ⟨more, hmore, rfl⟩
    rw [stripStart?_eq_some.1 hmore, List.append_assoc]

theorem identifier?_run (hsource : NameFault.find? source = none) (lead before : Text) :
    identifier? source lead before (w ++ v) =
      if (stripStart? source w).any (stops source) then some (lead, lead.length + source.length)
      else none := by
  have hwhole := NameFault.isWhole hsource
  cases hstrip : stripStart? source w with
  | none =>
    rw [identifier?, stripStart?_run hw hv hwhole, hstrip]
    rfl
  | some rest =>
    obtain rfl := stripStart?_eq_some.1 hstrip
    have hstops : stops source rest =
        !((rest ++ v).head?.any isWordChar && source.getLast? != some '$') := by
      cases rest with
      | nil =>
        have hnone : v.head?.any isWordChar = false := by
          cases v with
          | nil => rfl
          | cons c v => exact not_isWordChar_of_foreign (by simpa [isApart_cons] using hv)
        simp [stops, hnone]
      | cons c rest =>
        have hword : isWordChar c = (c != '$') := by
          rw [Bool.eq_iff_iff, isWordChar_iff (hw c (by simp)), bne_iff_ne]
        cases hc : c == '$' <;> simp_all [stops, bne]
    rw [List.append_assoc, identifier?_append hsource, Option.any_some, hstops]
    cases (rest ++ v).head?.any isWordChar && source.getLast? != some '$' <;> rfl

end Runs

/-- Within an identifier nothing is found. -/
theorem identifierSite_inside {before cs : Text} {c : Char} (hbefore : before ≠ [])
    (hc : isIdentifierChar c = true) : identifierSite source before (c :: cs) = none := by
  simp [identifierSite, hbefore, hc]

/-- An identifier with the character in front of it, if there is one, which the search looks at. -/
theorem replaceFrom_identifier (target : Text) (hsource : NameFault.find? source = none)
    (lead : Text) {before w v : Text} (hlead : lead.length ≤ 1) (hne : lead ++ w ≠ [])
    (hw : ∀ c ∈ w, isIdentifierChar c = true) (hv : isApart v = true)
    (hsite : identifierSite source before (lead ++ (w ++ v)) = identifier? source lead before (w ++ v)) :
    replaceFrom (identifierSite source) (fun lead _ => lead ++ target) before (lead ++ (w ++ v)) =
      lead ++ renamed source target w ++
        replaceFrom (identifierSite source) (fun lead _ => lead ++ target)
          ((lead ++ w).reverse ++ before) v := by
  have hwhole := NameFault.isWhole hsource
  have hfinds : Finds (identifierSite source) fun _ covered => covered ≠ [] := by
    intro b a l n h
    rw [finds_identifierSite source b a l n h]
    simp [hwhole.ne_nil]
  rw [identifier?_run hw hv hsource] at hsite
  cases hfound : (stripStart? source w).any (stops source) with
  | true =>
    obtain ⟨rest, hstrip, hstops⟩ := Option.any_eq_true _ _ |>.1 hfound
    obtain rfl := stripStart?_eq_some.1 hstrip
    have hcovered : lead ++ (source ++ rest ++ v) = lead ++ source ++ (rest ++ v) := by simp
    have hlength : lead.length + source.length = (lead ++ source).length := by simp
    rw [if_pos hfound, hcovered, hlength] at hsite
    have hnew : renamed source target (source ++ rest) = target ++ rest := by
      simp [renamed, hstrip, hstops]
    rw [hcovered, replaceFrom_site hfinds _ hsite, replaceFrom_run _ fun x c y hxy =>
      identifierSite_inside (by simp [hwhole.ne_nil]) (hw c (by simp [hxy])), hnew]
    simp
  | false =>
    have hsame : renamed source target w = w := by
      unfold renamed
      split
      · rename_i rest hstrip
        rw [hstrip, Option.any_some] at hfound
        simp [hfound]
      · rfl
    rw [if_neg (by simp [hfound])] at hsite
    rw [hsame, ← List.append_assoc]
    refine replaceFrom_run _ fun x c y hxy => ?_
    cases x with
    | nil =>
      rw [← List.append_assoc, hxy] at hsite
      exact hsite
    | cons d x =>
      -- What follows the first character belongs to the identifier.
      have hmem : c ∈ w := by
        cases lead with
        | nil => simp [show w = d :: x ++ c :: y from hxy]
        | cons e lead =>
          obtain rfl : lead = [] := by simpa using hlead
          obtain ⟨-, hrest⟩ := List.cons.inj hxy
          simp [show w = x ++ c :: y from hrest]
      exact identifierSite_inside (by simp) (hw c hmem)

theorem identifierSite_foreign (hsource : IsWhole source) {c : Char}
    (hc : isIdentifierChar c = false) (before t : Text) :
    identifierSite source before (c :: t) = identifier? source [c] before t := by
  have hnone : identifier? source [] before (c :: t) = none := by
    have hstrip : stripStart? source (c :: t) = none :=
      Option.eq_none_iff_forall_ne_some.2 fun rest h =>
        hsource.ne_append hc t rest (stripStart?_eq_some.1 h)
    rw [identifier?, hstrip]
    rfl
  simp [identifierSite, hnone, hc]

theorem identifierSite_start {c : Char} (hc : isIdentifierChar c = true) (t : Text) :
    identifierSite source [] (c :: t) = identifier? source [] [] (c :: t) := by
  simp [identifierSite, hc]

theorem renamed_foreign (hsource : IsWhole source) {run : Text}
    (hrun : run.head?.any isIdentifierChar = false) : renamed source target run = run := by
  unfold renamed
  split
  · rename_i rest hstrip
    obtain rfl := stripStart?_eq_some.1 hstrip
    have hapart := hsource.not_isApart rest
    rw [isApart, hrun] at hapart
    cases hapart
  · rfl

/-- **A rename** changes identifiers one by one. -/
theorem renameIdentifier_eq (hsource : NameFault.find? source = none) (t : Text) :
    renameIdentifier source target t = (runs t).flatMap (renamed source target) := by
  have hwhole := NameFault.isWhole hsource
  have hbehind : ∀ (t before : Text),
      replaceFrom (identifierSite source) (fun lead _ => lead ++ target) before
          (t.dropWhile isIdentifierChar) =
        (runs (t.dropWhile isIdentifierChar)).flatMap (renamed source target) := by
    intro t
    induction t using runs_induction with
    | nil =>
      intro before
      refine replaceFrom_nil ?_ _ before
      intro b a l n h
      rw [finds_identifierSite source b a l n h]
      simp [hwhole.ne_nil]
    | identifier u v _ hu hv ih =>
      have hdrop : (u ++ v).dropWhile isIdentifierChar = v.dropWhile isIdentifierChar := by
        rw [List.dropWhile_append_of_pos hu]
      rwa [hdrop]
    | foreign c t hc ih =>
      intro before
      have hdrop : (c :: t).dropWhile isIdentifierChar = c :: t := by simp [hc]
      have hsplit := t.takeWhile_append_dropWhile (p := isIdentifierChar)
      have hsite := identifierSite_foreign hwhole hc before
        (t.takeWhile isIdentifierChar ++ t.dropWhile isIdentifierChar)
      have hstep := replaceFrom_identifier target hsource [c] (by simp) (by simp) all_takeWhile
        (isApart_dropWhile t) hsite
      have hforeign : renamed source target [c] = [c] := renamed_foreign hwhole (by simp [hc])
      rw [List.singleton_append, hsplit, ih] at hstep
      rw [hdrop, hstep, runs_foreign hc, List.flatMap_cons,
        flatMap_runs_eq (renamed_foreign hwhole rfl) t, hforeign]
      simp
  show replaceFrom (identifierSite source) (fun lead _ => lead ++ target) [] t = _
  rw [flatMap_runs_eq (renamed_foreign hwhole rfl) t]
  have hsplit := t.takeWhile_append_dropWhile (p := isIdentifierChar)
  cases hw : t.takeWhile isIdentifierChar with
  | nil =>
    rw [hw, List.nil_append] at hsplit
    have hall := hbehind t []
    rw [hsplit] at hall ⊢
    rw [hall, renamed_foreign hwhole rfl, List.nil_append]
  | cons c w =>
    have hidentifier : ∀ d ∈ c :: w, isIdentifierChar d = true := hw ▸ all_takeWhile
    have hstep := replaceFrom_identifier target hsource [] (by simp) (by simp) hidentifier
      (isApart_dropWhile t) (identifierSite_start (hidentifier c (.head _)) _)
    rw [hw] at hsplit
    rw [List.nil_append, hsplit, hbehind] at hstep
    exact hstep

/-! ## Which renames are right -/

theorem actsOnIdentifiers_renamed (hsource : IsWhole source) (htarget : IsWhole target) :
    ActsOnIdentifiers (renamed source target) where
  foreign c hc := renamed_foreign hsource (by simp [hc])
  identifier u hu := by
    unfold renamed
    split
    · rename_i rest hstrip
      split
      · obtain rfl := stripStart?_eq_some.1 hstrip
        intro c hc
        rcases List.mem_append.1 hc with hc | hc
        · exact htarget.identifier c hc
        · exact hu c (List.mem_append_right _ hc)
      · exact hu
    · exact hu

theorem actsOnIdentifiers_exact (hsource : IsWhole source) (htarget : IsWhole target) :
    ActsOnIdentifiers fun run => if run = source then target else run where
  foreign c hc := by
    refine if_neg fun h => ?_
    have hmem := hsource.identifier c (by simp [← h])
    rw [hc] at hmem
    cases hmem
  identifier u hu := by
    split
    · exact htarget.identifier
    · exact hu

/-- **Exactly the identifiers that are the name are renamed** if and only if none goes on behind the
name with `$`, and, where the name ends with `$`, none goes on behind it at all. In any case a rename
changes identifiers one by one, and nothing between them. -/
theorem renames_whole_iff (hsource : NameFault.find? source = none)
    (htarget : NameFault.find? target = none) (t : Text) :
    renameIdentifier source target t = (runs t).flatMap (renamed source target) ∧
    (renameIdentifier source target t =
        (runs t).flatMap (fun run => if run = source then target else run) ↔
      source = target ∨ ∀ rest, rest ≠ [] → source ++ rest ∈ runs t →
        rest.head? ≠ some '$' ∧ source.getLast? ≠ some '$') := by
  have hsource' := NameFault.isWhole hsource
  have htarget' := NameFault.isWhole htarget
  refine ⟨renameIdentifier_eq hsource t, ?_⟩
  rw [renameIdentifier_eq hsource, flatMap_runs_eq_iff (actsOnIdentifiers_renamed hsource' htarget')
    (actsOnIdentifiers_exact hsource' htarget')]
  constructor
  · intro h
    refine or_iff_not_imp_left.2 fun hne rest hrest hmem => ?_
    have hrun := h _ hmem
    have hlonger : ¬ source ++ rest = source := by simpa using hrest
    rw [renamed, stripStart?_eq_some.2 rfl, if_neg hlonger] at hrun
    dsimp only at hrun
    split at hrun
    · exact absurd (List.append_cancel_right hrun).symm hne
    · rename_i hstops
      simpa [stops, hrest] using hstops
  · rintro h run hmem
    unfold renamed
    split
    · rename_i rest hstrip
      obtain rfl := stripStart?_eq_some.1 hstrip
      by_cases hrest : rest = []
      · simp [hrest, stops]
      · have hlonger : ¬ source ++ rest = source := by simpa using hrest
        rw [if_neg hlonger]
        split
        · rename_i hstops
          rcases h with rfl | h
          · rfl
          · obtain ⟨hhead, hlast⟩ := h rest hrest hmem
            simp [stops, hrest, hhead, hlast] at hstops
        · rfl
    · rename_i hstrip
      refine (if_neg ?_).symm
      rintro rfl
      rw [stripStart?_eq_some.2 (List.append_nil _).symm] at hstrip
      cases hstrip

/-- A longer identifier that starts with the name, and the name at either end of the text. -/
theorem renames_whole_longer :
    let source := "PgDialect".toList
    let target := "SQLiteAsyncDialect".toList
    let t := "PgDialect, PgDialectLike, my$PgDialect: PgDialect".toList
    NameFault.find? source = none ∧ NameFault.find? target = none ∧
      renameIdentifier source target t =
        (runs t).flatMap (fun run => if run = source then target else run) ∧
      renameIdentifier source target t =
        "SQLiteAsyncDialect, PgDialectLike, my$PgDialect: SQLiteAsyncDialect".toList := by
  intro source target t
  have hsource : NameFault.find? source = none := by decide
  have htarget : NameFault.find? target = none := by decide
  have hlonger : ∀ run ∈ runs t, ∀ rest ∈ stripStart? source run,
      rest = [] ∨ rest.head? ≠ some '$' ∧ source.getLast? ≠ some '$' := by decide +kernel
  exact ⟨hsource, htarget, (renames_whole_iff hsource htarget t).2.2 <| .inr fun rest hrest hmem =>
    (hlonger _ hmem rest (stripStart?_eq_some.2 rfl)).resolve_left hrest, by decide +kernel⟩

/-- **An identifier is renamed in part** if it goes on with `$` behind the name, or, where the name ends
with `$`, if it goes on at all. -/
theorem rename_splits_identifier :
    NameFault.find? "count".toList = none ∧ NameFault.find? "total".toList = none ∧
      NameFault.find? "count$".toList = none ∧
      renameIdentifier "count".toList "total".toList "count$ + count\n".toList =
        "total$ + total\n".toList ∧
      (runs "count$ + count\n".toList).flatMap
          (fun run => if run = "count".toList then "total".toList else run) =
        "count$ + total\n".toList ∧
      renameIdentifier "count$".toList "total".toList "count$s".toList = "totals".toList := by
  decide +kernel

end Vocabulary

end Multidialect
