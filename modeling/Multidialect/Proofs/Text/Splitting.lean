import Multidialect.Proofs.Text.Arguments

/-! # Cutting a list and joining it again

A comma cuts a list where it stands outside of brackets and strings (`Nesting.Outside`). Joined with
commas, the entries of a text are that text again (`join_splitTopLevel`). Texts that are joined with
commas are what the joined text is cut into, and it ends outside, exactly if each of them is an entry of
its own: it ends outside, and no comma in it stands there (`IsEntry`). Nothing that was read of one entry
is of any matter to the next one, as behind a comma a list goes on as it starts
(`splitTopLevelFrom_eq_cons`).
-/

namespace Multidialect.Text

open Nesting

variable {s : Nesting} {c sep : Char}

namespace Nesting

/-- Outside of brackets and strings. -/
structure Outside (s : Nesting) : Prop where
  quote : s.quote = none
  depth : s.depth = 0

theorem Outside.start : start.Outside := ⟨rfl, rfl⟩

instance (s : Nesting) : Decidable s.Outside :=
  decidable_of_iff (s.quote = none ∧ s.depth = 0) ⟨fun h => ⟨h.1, h.2⟩, fun h => ⟨h.quote, h.depth⟩⟩

/-- A comma cuts only outside of brackets and strings. -/
theorem cutsAt_comma_iff : s.cutsAt ',' ',' = true ↔ s.Outside := by
  constructor
  · intro h
    simp only [cutsAt, Bool.and_eq_true, Option.isNone_iff_eq_none, beq_iff_eq] at h
    exact ⟨h.1.1.1.1.1, h.1.1.1.1.2⟩
  · rintro ⟨hquote, hdepth⟩
    simp [cutsAt, hquote, hdepth, isQuote, isOpening, isClosing]

theorem eq_of_cutsAt (h : s.cutsAt sep c = true) : c = sep := by
  simp only [cutsAt, Bool.and_eq_true, beq_iff_eq] at h
  exact h.1.1.1.2

theorem cutsAt_iff : s.cutsAt ',' c = true ↔ c = ',' ∧ s.Outside := by
  constructor
  · intro h
    obtain rfl := eq_of_cutsAt h
    exact ⟨rfl, cutsAt_comma_iff.1 h⟩
  · rintro ⟨rfl, h⟩
    exact cutsAt_comma_iff.2 h

theorem Outside.next_comma (h : s.Outside) : s.next ',' = level 0 := by
  rw [Nesting.next_comma h.quote, h.depth]

/-- What closes itself leaves no bracket and no string open. -/
theorem outside_run_of_closesItself {t : Text} (h : s.closesItself t = true) : (s.run t).Outside := by
  induction t generalizing s with
  | nil => exact cutsAt_comma_iff.1 (cutsAt_comma h).1
  | cons c cs ih =>
    rw [closesItself, Bool.and_eq_true] at h
    exact ih h.2

theorem run_append (s : Nesting) (u v : Text) : s.run (u ++ v) = (s.run u).run v :=
  List.foldl_append

/-- Where a text ends does not depend on what stands in front of it, but for open brackets. -/
theorem Plain.outside_run_iff (h : s.Plain) (t : Text) :
    (s.run t).Outside ↔ ((level s.depth).run t).Outside := by
  cases t with
  | nil => exact ⟨fun ho => ⟨rfl, ho.depth⟩, fun ho => ⟨h.quote, ho.depth⟩⟩
  | cons c cs => rw [run, run, List.foldl_cons, List.foldl_cons, h.next_eq]

end Nesting

/-! ## The cut of two texts -/

/-- Two texts have as many entries as both, less one: the last entry of the first goes on. -/
theorem length_splitTopLevelFrom_append (x y : Text) :
    (splitTopLevelFrom sep s (x ++ y)).length + 1 =
      (splitTopLevelFrom sep s x).length + (splitTopLevelFrom sep (s.run x) y).length := by
  induction x generalizing s with
  | nil => simp [splitTopLevelFrom, run, Nat.add_comm]
  | cons c x ih =>
    have hrest := ih (s := s.next c)
    rw [List.cons_append, splitTopLevelFrom, splitTopLevelFrom, run, List.foldl_cons, ← run]
    split
    · simp only [List.length_cons]
      omega
    · simpa only [List.length_modifyHead] using hrest

/-- A separator that cuts parts the entries in front from those behind. -/
theorem splitTopLevelFrom_append_of_cutsAt {x : Text} (h : (s.run x).cutsAt sep c = true) (t : Text) :
    splitTopLevelFrom sep s (x ++ c :: t) =
      splitTopLevelFrom sep s x ++ splitTopLevelFrom sep ((s.run x).next c) t := by
  induction x generalizing s with
  | nil =>
    have hcuts : s.cutsAt sep c = true := h
    simp [splitTopLevelFrom, hcuts, run]
  | cons d x ih =>
    have hrest : splitTopLevelFrom sep (s.next d) (x ++ c :: t) = _ := ih h
    rw [List.cons_append, splitTopLevelFrom, splitTopLevelFrom, hrest]
    obtain ⟨entry, rest, he⟩ :=
      List.exists_cons_of_ne_nil (splitTopLevelFrom_ne_nil sep (s.next d) x)
    split
    · rfl
    · rw [he]
      rfl

/-- What holds no separator is one entry. -/
theorem splitTopLevelFrom_of_isOrdinary {t : Text} (h : ∀ c ∈ t, IsOrdinary c) :
    splitTopLevelFrom ',' s t = [t] := by
  induction t generalizing s with
  | nil => rfl
  | cons c cs ih =>
    rw [splitTopLevelFrom, cutsAt_of_isOrdinary (h c (.head _)), ih fun d hd => h d (.tail _ hd)]
    rfl

/-! ## Joining what was cut -/

theorem join_splitTopLevelFrom (sep : Char) (s : Nesting) (t : Text) :
    join [sep] (splitTopLevelFrom sep s t) = t := by
  induction t generalizing s with
  | nil => exact List.intercalate_singleton
  | cons c cs ih =>
    have hrest := ih (s.next c)
    obtain ⟨entry, rest, he⟩ :=
      List.exists_cons_of_ne_nil (splitTopLevelFrom_ne_nil sep (s.next c) cs)
    rw [splitTopLevelFrom]
    rw [he, join] at hrest
    split
    · rename_i hcut
      rw [he, eq_of_cutsAt hcut, join, List.intercalate_cons_cons, hrest]
      rfl
    · rw [he, List.modifyHead_cons, join, List.intercalate_cons_cons_left, hrest]

/-- **Cutting loses nothing** but the separators. -/
theorem join_splitTopLevel (t : Text) (sep : Char) : join [sep] (splitTopLevel t sep) = t :=
  join_splitTopLevelFrom sep start t

/-! ## Entries -/

/-- In a text that goes on with nesting `s` no comma stands outside of brackets and strings. -/
def Uncut (s : Nesting) (t : Text) : Prop :=
  ∀ front back, t = front ++ ',' :: back → ¬ (s.run front).Outside

theorem uncut_nil : Uncut s [] := fun _ _ h => by simp at h

theorem uncut_cons {cs : Text} : Uncut s (c :: cs) ↔ s.cutsAt ',' c = false ∧ Uncut (s.next c) cs := by
  rw [← Bool.not_eq_true, cutsAt_iff]
  constructor
  · intro h
    refine ⟨fun ⟨hc, ho⟩ => h [] cs (by rw [hc]; rfl) ho, fun front back hcs => ?_⟩
    exact h (c :: front) back (by rw [hcs]; rfl)
  · rintro ⟨hc, hcs⟩ front back h ho
    rcases List.cons_eq_append_iff.1 h with ⟨rfl, he⟩ | ⟨front', rfl, he⟩
    · exact hc ⟨(List.cons.inj he).1.symm, ho⟩
    · exact hcs front' back he ho

theorem uncut_append {u v : Text} (hu : Uncut s u) (hv : Uncut (s.run u) v) : Uncut s (u ++ v) := by
  induction u generalizing s with
  | nil => exact hv
  | cons c u ih =>
    obtain ⟨hc, hu⟩ := uncut_cons.1 hu
    exact uncut_cons.2 ⟨hc, ih hu hv⟩

/-- A list starts as it goes on behind a comma. -/
theorem splitTopLevel_eq (t : Text) : splitTopLevel t ',' = splitTopLevelFrom ',' (level 0) t :=
  plain_start.splitTopLevelFrom_eq ',' t

/-- Behind a text that ends outside of brackets and strings a comma parts two lists. -/
theorem splitTopLevel_append_comma {x : Text} (h : (start.run x).Outside) (t : Text) :
    splitTopLevel (x ++ ',' :: t) ',' = splitTopLevel x ',' ++ splitTopLevel t ',' := by
  rw [splitTopLevel_eq t, ← h.next_comma]
  exact splitTopLevelFrom_append_of_cutsAt (cutsAt_comma_iff.2 h) t

/-- The first entry of a text, and what is left behind the comma that ends it: there a list starts
again. -/
theorem splitTopLevelFrom_eq_cons {t entry : Text} {rest : List Text}
    (h : splitTopLevelFrom ',' s t = entry :: rest) :
    Uncut s entry ∧
      (rest = [] ∧ t = entry ∨
        (s.run entry).Outside ∧ ∃ t', t = entry ++ ',' :: t' ∧ splitTopLevel t' ',' = rest) := by
  induction t generalizing s entry with
  | nil =>
    obtain ⟨rfl, rfl⟩ := List.cons.inj h
    exact ⟨uncut_nil, .inl ⟨rfl, rfl⟩⟩
  | cons c cs ih =>
    rw [splitTopLevelFrom] at h
    split at h
    · rename_i hcut
      obtain ⟨rfl, hrest⟩ := List.cons.inj h
      obtain ⟨rfl, ho⟩ := cutsAt_iff.1 hcut
      rw [ho.next_comma, ← splitTopLevel_eq] at hrest
      exact ⟨uncut_nil, .inr ⟨ho, cs, rfl, hrest⟩⟩
    · rename_i hcut
      obtain ⟨first, more, he⟩ :=
        List.exists_cons_of_ne_nil (splitTopLevelFrom_ne_nil ',' (s.next c) cs)
      rw [he, List.modifyHead_cons] at h
      obtain ⟨rfl, rfl⟩ := List.cons.inj h
      obtain ⟨huncut, hbehind⟩ := ih he
      refine ⟨uncut_cons.2 ⟨Bool.not_eq_true _ ▸ hcut, huncut⟩, ?_⟩
      rcases hbehind with ⟨hnil, rfl⟩ | ⟨ho, t', rfl, hrest⟩
      · exact .inl ⟨hnil, rfl⟩
      · exact .inr ⟨ho, t', rfl, hrest⟩

/-- What no comma cuts is one entry, and the other way round. -/
theorem splitTopLevelFrom_eq_singleton_iff {t : Text} :
    splitTopLevelFrom ',' s t = [t] ↔ Uncut s t := by
  constructor
  · exact fun h => (splitTopLevelFrom_eq_cons h).1
  · intro h
    induction t generalizing s with
    | nil => rfl
    | cons c cs ih =>
      obtain ⟨hc, hcs⟩ := uncut_cons.1 h
      rw [splitTopLevelFrom, hc, ih hcs]
      rfl

/-- A text that a list may hold as one entry: it ends outside of brackets and strings, and no comma in
it stands there. -/
structure IsEntry (entry : Text) : Prop where
  ends : (start.run entry).Outside
  uncut : Uncut start entry

instance (entry : Text) : Decidable (IsEntry entry) :=
  decidable_of_iff ((start.run entry).Outside ∧ splitTopLevel entry ',' = [entry])
    ⟨fun h => ⟨h.1, splitTopLevelFrom_eq_singleton_iff.1 h.2⟩,
      fun h => ⟨h.ends, splitTopLevelFrom_eq_singleton_iff.2 h.uncut⟩⟩

/-- An entry in front of a list is the first one. -/
theorem split_append_iff {entry t : Text} {rest : List Text} (hrest : rest ≠ []) :
    splitTopLevel (entry ++ ',' :: t) ',' = entry :: rest ↔
      IsEntry entry ∧ splitTopLevel t ',' = rest := by
  constructor
  · intro h
    obtain ⟨huncut, ⟨hnil, -⟩ | ⟨ho, t', ht', hcut⟩⟩ := splitTopLevelFrom_eq_cons h
    · exact absurd hnil hrest
    · have hsame : t = t' := (List.cons.inj (List.append_cancel_left ht')).2
      exact ⟨⟨ho, huncut⟩, hsame ▸ hcut⟩
  · rintro ⟨hentry, rfl⟩
    have hone : splitTopLevel entry ',' = [entry] :=
      splitTopLevelFrom_eq_singleton_iff.2 hentry.uncut
    rw [splitTopLevel_append_comma hentry.ends, hone]
    rfl

theorem outside_run_append_iff {entry : Text} (h : IsEntry entry) (t : Text) :
    (start.run (entry ++ ',' :: t)).Outside ↔ (start.run t).Outside := by
  rw [run_append, run, List.foldl_cons, h.ends.next_comma, ← run]
  exact (plain_start.outside_run_iff t).symm

theorem join_cons_cons (entry next : Text) (rest : List Text) :
    join [','] (entry :: next :: rest) = entry ++ ',' :: join [','] (next :: rest) := by
  simp [join, List.intercalate_cons_cons]

theorem forall_isEntry_iff (entry : Text) (rest : List Text) :
    (∀ x ∈ entry :: rest, IsEntry x) ↔
      splitTopLevel (join [','] (entry :: rest)) ',' = entry :: rest ∧
        (start.run (join [','] (entry :: rest))).Outside := by
  induction rest generalizing entry with
  | nil =>
    have hjoin : join [','] [entry] = entry := List.intercalate_singleton
    rw [hjoin, splitTopLevel, splitTopLevelFrom_eq_singleton_iff]
    simp only [List.mem_singleton, forall_eq]
    exact ⟨fun h => ⟨h.uncut, h.ends⟩, fun h => ⟨h.2, h.1⟩⟩
  | cons next rest ih =>
    rw [List.forall_mem_cons, ih, join_cons_cons, split_append_iff (List.cons_ne_nil next rest)]
    constructor
    · rintro ⟨hentry, hcut, hends⟩
      exact ⟨⟨hentry, hcut⟩, (outside_run_append_iff hentry _).2 hends⟩
    · rintro ⟨⟨hentry, hcut⟩, hends⟩
      exact ⟨hentry, hcut, (outside_run_append_iff hentry _).1 hends⟩

/-- **Entries that are joined** are cut again where they were joined. -/
theorem splitTopLevel_join {entries : List Text} (hne : entries ≠ [])
    (h : ∀ entry ∈ entries, IsEntry entry) : splitTopLevel (join [','] entries) ',' = entries := by
  obtain ⟨entry, rest, rfl⟩ := List.exists_cons_of_ne_nil hne
  exact ((forall_isEntry_iff entry rest).1 h).1

/-- **Cutting and joining are inverse.** Joined with the separator the pieces of a text are that text
again, whatever the text and the separator. Texts, at least one of them, that are joined with commas are
what the joined text is cut into, and it ends outside of brackets and strings, exactly if each of them
ends there and has no comma there. -/
theorem splitTopLevel_inverts_join :
    (∀ (t : Text) (sep : Char), join [sep] (splitTopLevel t sep) = t) ∧
      ∀ texts : List Text, texts ≠ [] →
        ((∀ entry ∈ texts, IsEntry entry) ↔
          splitTopLevel (join [','] texts) ',' = texts ∧ (start.run (join [','] texts)).Outside) := by
  refine ⟨join_splitTopLevel, fun texts hne => ?_⟩
  obtain ⟨entry, rest, rfl⟩ := List.exists_cons_of_ne_nil hne
  exact forall_isEntry_iff entry rest

/-- A constraint with arguments of its own, a string with a comma, and an arrow. -/
theorem splitTopLevel_inverts_join_nested :
    ["T extends Record<string, unknown>".toList, " U = 'a,<'".toList, " F = (a, b) => [a]".toList] ≠ [] ∧
      (∀ entry ∈ ["T extends Record<string, unknown>".toList, " U = 'a,<'".toList,
        " F = (a, b) => [a]".toList], IsEntry entry) ∧
      splitTopLevel "T extends Record<string, unknown>, U = 'a,<', F = (a, b) => [a]".toList ',' =
        ["T extends Record<string, unknown>".toList, " U = 'a,<'".toList,
          " F = (a, b) => [a]".toList] := by
  have hentries : ∀ entry ∈ ["T extends Record<string, unknown>".toList, " U = 'a,<'".toList,
      " F = (a, b) => [a]".toList], IsEntry entry := by decide +kernel
  exact ⟨by simp, hentries, ((splitTopLevel_inverts_join.2 _ (by simp)).1 hentries).1⟩

end Multidialect.Text
