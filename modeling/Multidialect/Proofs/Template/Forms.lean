import Multidialect.Manifest.Read
import Multidialect.Proofs.Outcome
import Multidialect.Proofs.Template.Arity
import Multidialect.Proofs.Text.Splitting

/-! # Parameters in front of a list

Each form of the type parameters goes, with a comma behind it, in front of parameters that are
there. It is *insertable* there (`Generics.Insertable`) if the entries of both are kept apart and
none is blank. All three forms are exactly if the code ends outside of brackets and strings and each
of its entries starts with a name (`Generics.forms_insertable_iff`). The built-in parameters are like
that (`Dialect.whole_profile`); the code of a manifest need not be, as a comma behind the last entry
shows (`Generics.last_comma_leaves_gap`).
-/

namespace Multidialect

namespace Text

open Nesting

variable {s : Nesting} {c sep : Char}

/-! ## Lists without blank entries -/

/-- The entries of a list of parameters. -/
def entries (list : Text) : List Text := splitTopLevel list ','

/-- No entry of a list is blank. -/
def Full (list : Text) : Prop := ∀ entry ∈ entries list, isBlankText entry = false

theorem parameterCount_of_full {list : Text} (h : Full list) :
    parameterCount list = (entries list).length := by
  rw [parameterCount, List.filter_eq_self.2]
  · rfl
  · intro entry hm
    rw [h entry hm]
    rfl

theorem entries_append_comma {x : Text} (h : (start.run x).Outside) (t : Text) :
    entries (x ++ ',' :: t) = entries x ++ entries t := splitTopLevel_append_comma h t

/-- If a comma behind a text adds an entry, the text ends outside of brackets and strings. -/
theorem outside_of_entries {x : Text} (c : Char) (hc : IsOrdinary c)
    (h : (entries (x ++ [',', c])).length = (entries x).length + 1) : (start.run x).Outside := by
  have hlength : (entries (x ++ [',', c])).length + 1 =
      (entries x).length + (splitTopLevelFrom ',' (start.run x) [',', c]).length :=
    length_splitTopLevelFrom_append x [',', c]
  by_contra hopen
  have hcuts : (start.run x).cutsAt ',' ',' = false := by
    rw [Bool.eq_false_iff, ne_eq, cutsAt_comma_iff]
    exact hopen
  have hone : (splitTopLevelFrom ',' (start.run x) [',', c]).length = 1 := by
    rw [splitTopLevelFrom, hcuts, splitTopLevelFrom_of_isOrdinary (by simpa using hc)]
    rfl
  omega

theorem full_cons_space {t : Text} (h : Full t) :
    Full (' ' :: t) ∧ (entries (' ' :: t)).length = (entries t).length := by
  have hentries : entries (' ' :: t) = (entries t).modifyHead (' ' :: ·) := by
    have hspace : IsOrdinary ' ' := isOrdinary_of_isBlank (by decide)
    have hplain : (start.next ' ').Plain := (plain_start.next_blank (by decide)).1
    rw [entries, entries, splitTopLevel_eq t, splitTopLevel, splitTopLevelFrom,
      cutsAt_of_isOrdinary hspace, hplain.splitTopLevelFrom_eq]
    rfl
  obtain ⟨entry, rest, he⟩ : ∃ entry rest, entries t = entry :: rest :=
    List.exists_cons_of_ne_nil (splitTopLevelFrom_ne_nil ',' start t)
  rw [Full, he, List.forall_mem_cons] at h
  rw [Full, hentries, he, List.modifyHead_cons, List.forall_mem_cons]
  have hblank : isBlankText (' ' :: entry) = (isBlank ' ' && isBlankText entry) := rfl
  exact ⟨⟨by rw [hblank, h.1, Bool.and_false], h.2⟩, rfl⟩

theorem full_append_comma {x t : Text} (h : (start.run x).Outside) (hx : Full x) (ht : Full t) :
    Full (x ++ ',' :: t) ∧ (entries (x ++ ',' :: t)).length = (entries x).length + (entries t).length := by
  rw [Full, entries_append_comma h, List.forall_mem_append, List.length_append]
  exact ⟨⟨hx, ht⟩, rfl⟩

theorem IsParameterName.entries_eq {name : Text} (h : IsParameterName name) : entries name = [name] :=
  splitTopLevelFrom_of_isOrdinary fun c hc => isOrdinary_of_isNameChar (h.name c hc)

/-- A list of names is cut into these. -/
theorem full_join {names : List Text} (hne : names ≠ []) (h : ∀ name ∈ names, IsParameterName name) :
    Full (join [',', ' '] names) ∧ (entries (join [',', ' '] names)).length = names.length := by
  induction names with
  | nil => exact absurd rfl hne
  | cons name names ih =>
    have hname := h name (.head _)
    have hfull : Full name := by
      rw [Full, hname.entries_eq]
      simpa using hname.isBlankText_eq
    cases names with
    | nil =>
      have hjoin : join [',', ' '] [name] = name := by simp [join]
      rw [hjoin, hname.entries_eq]
      exact ⟨hfull, rfl⟩
    | cons name' names =>
      have hrest : ∀ x ∈ name' :: names, IsParameterName x := fun x hx => h x (.tail _ hx)
      obtain ⟨hrestfull, hrestlength⟩ := ih (by simp) hrest
      obtain ⟨hspacefull, hspacelength⟩ := full_cons_space hrestfull
      have houtside : (start.run name).Outside := outside_run_of_closesItself
        (closesItself_of_isOrdinary rfl rfl fun c hc =>
          .inr (isOrdinary_of_isNameChar (hname.name c hc)))
      have hjoin : join [',', ' '] (name :: name' :: names) =
          name ++ ',' :: (' ' :: join [',', ' '] (name' :: names)) := by
        simp [join, List.intercalate_cons_cons]
      rw [hjoin]
      obtain ⟨hall, hlength⟩ := full_append_comma houtside hfull hspacefull
      refine ⟨hall, ?_⟩
      rw [hlength, hname.entries_eq, hspacelength, hrestlength]
      simp [Nat.add_comm]

end Text

/-! ## The forms of the parameters -/

open Text Nesting

/-- The code of type parameters ends outside of brackets and strings, and each entry starts with a
name. -/
structure TypeParams.Whole (p : TypeParams) : Prop where
  ends : (start.run p.code).Outside
  named : ∀ entry ∈ entries p.code, parameterName entry ≠ []

instance (p : TypeParams) : Decidable p.Whole :=
  decidable_of_iff ((start.run p.code).Outside ∧ ∀ entry ∈ entries p.code, parameterName entry ≠ [])
    ⟨fun h => ⟨h.1, h.2⟩, fun h => ⟨h.ends, h.named⟩⟩

theorem TypeParams.Declares.whole {p : TypeParams} (h : p.Declares) : p.Whole :=
  ⟨outside_run_of_closesItself h.closes, h.named⟩

/-- The parameters that are built in. -/
theorem Dialect.whole_profile (d : Dialect) : ∀ p ∈ d.profile.typeParams, p.Whole := by
  cases d <;> decide +kernel

namespace Generics

variable {p : TypeParams}

/-- Text with `n` entries, none of them blank, that stay apart from those of any list that follows
behind a comma. -/
structure Insertable (n : Nat) (form : Text) : Prop where
  full : Full form
  count : (entries form).length = n
  ahead : ∀ list, Full list → Full (form ++ ',' :: list) ∧
    (entries (form ++ ',' :: list)).length = n + (entries list).length

theorem insertable_iff {n : Nat} {form : Text} :
    Insertable n form ↔ Full form ∧ (entries form).length = n ∧ (start.run form).Outside := by
  constructor
  · rintro ⟨hfull, rfl, hahead⟩
    have hone : entries ['T'] = [['T']] := by decide
    have hmore := (hahead ['T'] (by rw [Full, hone]; decide)).2
    rw [hone] at hmore
    exact ⟨hfull, rfl, outside_of_entries 'T' (isOrdinary_of_isNameChar (by decide)) hmore⟩
  · rintro ⟨hfull, rfl, hends⟩
    exact ⟨hfull, rfl, fun list hlist => full_append_comma hends hfull hlist⟩

/-- The parameters are as many as the names in the code exactly if each entry has one. -/
theorem named_iff (hfull : Full p.code) :
    (parameterNames p.code).length = p.slots ↔
      ∀ entry ∈ entries p.code, parameterName entry ≠ [] := by
  have hlength : (entries p.code).length = ((entries p.code).map parameterName).length := by simp
  rw [TypeParams.slots, parameterCount_of_full hfull, parameterNames, ← entries, hlength,
    List.length_filter_eq_length_iff]
  simp

/-- Names lead if there are any. -/
theorem insertable_join {n : Nat} {names : List Text} (h : ∀ name ∈ names, IsParameterName name) :
    Insertable n (join [',', ' '] names) ↔ names ≠ [] ∧ names.length = n := by
  have hends : (start.run (join [',', ' '] names)).Outside :=
    outside_run_of_closesItself (closesItself_of_isOrdinary rfl rfl (isOrdinary_of_mem_join h))
  rw [insertable_iff]
  constructor
  · rintro ⟨hfull, hcount, -⟩
    have hne : names ≠ [] := by
      rintro rfl
      exact absurd (hfull [] (.head _)) (by decide)
    exact ⟨hne, (full_join hne h).2.symm.trans hcount⟩
  · rintro ⟨hne, rfl⟩
    exact ⟨(full_join hne h).1, (full_join hne h).2, hends⟩

theorem isParameterName_of_mem {name : Text} (h : name ∈ parameterNames p.code) :
    IsParameterName name :=
  ⟨(isNameChar_of_mem_parameterNames h).1, (isNameChar_of_mem_parameterNames h).2⟩

theorem isParameterName_any : IsParameterName ['a', 'n', 'y'] :=
  ⟨by decide, List.all_eq_true.1 (by decide)⟩

/-- **Each form leads** a list, with as many entries as there are parameters, exactly if the code ends
outside of brackets and strings and each of its entries starts with a name. -/
theorem forms_insertable_iff (p : TypeParams) :
    (∀ k : SiteKind, Insertable p.slots (k.parameters p)) ↔ p.Whole := by
  constructor
  · intro h
    obtain ⟨hfull, -, hends⟩ := insertable_iff.1 (h .declaration)
    have hnames := ((insertable_join fun _ => isParameterName_of_mem).1 (h .usage)).2
    exact ⟨hends, (named_iff hfull).1 hnames⟩
  · intro h
    have hfull : Full p.code := fun entry hm => isBlankText_of_named (h.named entry hm)
    have hslots : (entries p.code).length = p.slots := (parameterCount_of_full hfull).symm
    have hpos : 0 < p.slots := by
      rw [← hslots]
      exact List.length_pos_of_ne_nil (splitTopLevelFrom_ne_nil ',' start p.code)
    rintro (_ | _ | _)
    case declaration => exact insertable_iff.2 ⟨hfull, hslots, h.ends⟩
    case reference =>
      refine (insertable_join fun name hm => List.eq_of_mem_replicate hm ▸ isParameterName_any).2 ⟨?_, ?_⟩
      · simpa using hpos.ne'
      · exact List.length_replicate
    case usage =>
      have hnames := (named_iff hfull).2 h.named
      refine (insertable_join fun _ => isParameterName_of_mem).2 ⟨?_, hnames⟩
      exact List.ne_nil_of_length_pos (hnames ▸ hpos)

/-- **A comma behind the last entry** of the code leaves a gap where the builder is declared. -/
theorem last_comma_leaves_gap :
    ∃ m : Manifest, Manifest.read "[dialects.sqlite]\ntype_params = \"A, B,\"\n" "dialectic.toml" =
        .ok m ∧
      ∃ p : TypeParams, (m.profile .sqlite).typeParams = some p ∧ p.slots = 2 ∧
        SiteKind.usage.parameters p = "A, B".toList ∧
        entries (SiteKind.declaration.parameters p ++ ',' :: "T".toList) =
          ["A".toList, " B".toList, [], "T".toList] ∧
        ¬ Insertable p.slots (SiteKind.declaration.parameters p) := by
  refine ⟨{ Manifest.standard with
      dialects := [(.sqlite, { Overrides.nothing with typeParams := some "A, B," })] },
    ok_of_toOption (by decide +kernel), ⟨"A, B,".toList⟩, by decide +kernel, by decide +kernel,
    by decide +kernel, by decide +kernel, fun h => ?_⟩
  exact absurd h.count (by decide +kernel)

end Generics

end Multidialect
