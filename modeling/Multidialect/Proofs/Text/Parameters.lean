import Multidialect.Proofs.Text.Splitting
import Mathlib.Data.List.TakeWhile

/-! # What a parameter list declares

White space around a parameter list makes no difference to the number of parameters, not even where a
string or a bracket is left open (`parameterCount_trim`). Whatever white space there is, a list that
declares parameters, each by a name and perhaps a constraint or a default (`Declaration`), has as many
parameters, and without their constraints it is the list of their names
(`stripConstraints_declare`).
-/

namespace Multidialect.Text

open Nesting

variable {s : Nesting} {filled : Bool} {entry ws : Text}

/-! ## White space -/

theorem isBlankText_iff : isBlankText ws = true ↔ ∀ c ∈ ws, isBlank c = true := List.all_eq_true

theorem trim_of_blanks (hws : ∀ c ∈ ws, isBlank c = true) : trim ws = [] := by
  have hstart : trimStart ws = [] := List.dropWhile_eq_nil_iff.2 hws
  rw [trim, hstart]
  rfl

/-- White space goes on with an entry, wherever it stands. -/
theorem entriesFrom_of_blanks (hws : ∀ c ∈ ws, isBlank c = true) :
    entriesFrom s filled ws = filled.toNat := by
  induction ws generalizing s with
  | nil => exact entriesFrom_nil
  | cons c ws ih =>
    have hc := hws c (.head _)
    rw [entriesFrom_cons, cutsAt_of_isOrdinary (isOrdinary_of_isBlank hc), hc]
    simp only [Bool.false_eq_true, if_false, Bool.not_true, Bool.or_false]
    exact ih fun d hd => hws d (.tail _ hd)

theorem entriesFrom_append_blanks (hws : ∀ c ∈ ws, isBlank c = true) (t : Text) :
    entriesFrom s filled (t ++ ws) = entriesFrom s filled t := by
  induction t generalizing s filled with
  | nil => rw [List.nil_append, entriesFrom_of_blanks hws, entriesFrom_nil]
  | cons c t ih => rw [List.cons_append, entriesFrom_cons, entriesFrom_cons, ih, ih]

/-- **White space around a list** adds no parameter and takes none away. -/
theorem parameterCount_trim (code : Text) : parameterCount (trim code) = parameterCount code := by
  obtain ⟨lead, trail, hcode, hlead, htrail⟩ := exists_around_trim code
  calc parameterCount (trim code)
      = entriesFrom start false (trim code) := (entriesFrom_start _).symm
    _ = entriesFrom (level 0) false (trim code) := plain_start.entriesFrom_eq false _
    _ = entriesFrom (level 0) false (trim code ++ trail) := (entriesFrom_append_blanks htrail _).symm
    _ = entriesFrom start false (lead ++ (trim code ++ trail)) :=
        (entriesFrom_blanks plain_start hlead false _).symm
    _ = parameterCount code := by rw [← hcode, entriesFrom_start]

theorem parameterCount_of_blanks (hws : ∀ c ∈ ws, isBlank c = true) : parameterCount ws = 0 := by
  rw [← entriesFrom_start, entriesFrom_of_blanks hws]
  rfl

/-! ## The name of an entry -/

/-- White space behind an entry is no part of its name. -/
theorem parameterName_eq (entry : Text) :
    parameterName entry = (trimStart entry).takeWhile isNameChar := by
  have hstop : ∀ t ws : Text, (∀ c ∈ ws, isBlank c = true) →
      (t ++ ws).takeWhile isNameChar = t.takeWhile isNameChar := by
    intro t ws hws
    have hnone : ws.takeWhile isNameChar = [] := by
      cases ws with
      | nil => rfl
      | cons c ws => simp [not_isNameChar_of_isBlank (hws c (.head _))]
    rw [List.takeWhile_append, hnone, List.append_nil]
    split
    · rename_i hall
      exact ((List.takeWhile_prefix _).eq_of_length hall).symm
    · rfl
  obtain ⟨trail, hsplit, htrail⟩ := exists_append_trimEnd (trimStart entry)
  rw [hsplit, hstop _ _ htrail]
  rfl

theorem parameterName_of_blanks (hws : ∀ c ∈ ws, isBlank c = true) : parameterName ws = [] := by
  rw [parameterName, trim_of_blanks hws]
  rfl

/-! ## White space around an entry -/

theorem Nesting.Outside.run_blanks (h : s.Outside) (hws : ∀ c ∈ ws, isBlank c = true) :
    (s.run ws).Outside := by
  induction ws generalizing s with
  | nil => exact h
  | cons c ws ih =>
    have hnext : (s.next c).Outside := by
      rw [next_of_isOrdinary h.quote (isOrdinary_of_isBlank (hws c (.head _)))]
      exact ⟨rfl, h.depth⟩
    exact ih hnext fun d hd => hws d (.tail _ hd)

theorem uncut_of_blanks (hws : ∀ c ∈ ws, isBlank c = true) : Uncut s ws := by
  intro front back he
  have hcomma : isBlank ',' = true := hws ',' (by simp [he])
  exact absurd hcomma (by decide)

theorem Nesting.Plain.uncut_iff (h : s.Plain) (t : Text) : Uncut s t ↔ Uncut (level s.depth) t := by
  rw [← splitTopLevelFrom_eq_singleton_iff, h.splitTopLevelFrom_eq, splitTopLevelFrom_eq_singleton_iff]

/-- An entry with white space around it is one. -/
theorem IsEntry.pad (h : IsEntry entry) {lead trail : Text} (hlead : ∀ c ∈ lead, isBlank c = true)
    (htrail : ∀ c ∈ trail, isBlank c = true) : IsEntry (lead ++ entry ++ trail) := by
  have hplain : (start.run lead).Plain := plain_start.run_blanks hlead
  have hdepth : (start.run lead).depth = 0 := (Outside.run_blanks .start hlead).depth
  have hends : ((start.run lead).run entry).Outside := by
    rw [hplain.outside_run_iff, hdepth]
    exact (plain_start.outside_run_iff entry).1 h.ends
  have huncut : Uncut (start.run lead) entry := by
    rw [hplain.uncut_iff, hdepth]
    exact (plain_start.uncut_iff entry).1 h.uncut
  constructor
  · rw [run_append, run_append]
    exact hends.run_blanks htrail
  · exact uncut_append (uncut_append (uncut_of_blanks hlead) huncut) (uncut_of_blanks htrail)

theorem isEntry_of_blanks (hws : ∀ c ∈ ws, isBlank c = true) : IsEntry ws :=
  ⟨Outside.run_blanks .start hws, uncut_of_blanks hws⟩

/-! ## Declarations -/

/-- A parameter as a list declares it: between white space its name, and behind the name nothing, or a
constraint or a default that does not go on with it. -/
structure Declaration where
  lead : Text
  name : Text
  rest : Text
  trail : Text
  blank_lead : ∀ c ∈ lead, isBlank c = true
  blank_trail : ∀ c ∈ trail, isBlank c = true
  isName : IsParameterName name
  apart : rest.head?.any isNameChar = false
  isEntry : IsEntry (name ++ rest)

namespace Declaration

/-- A declaration as it is written. -/
def text (d : Declaration) : Text := d.lead ++ (d.name ++ d.rest) ++ d.trail

theorem isEntry_text (d : Declaration) : IsEntry d.text := d.isEntry.pad d.blank_lead d.blank_trail

theorem parameterName_text (d : Declaration) : parameterName d.text = d.name := by
  have hhead : (d.name ++ (d.rest ++ d.trail)).head?.any isBlank = false := by
    obtain ⟨c, cs, hname⟩ := List.exists_cons_of_ne_nil d.isName.ne_nil
    have hc : isNameChar c = true := d.isName.name c (by simp [hname])
    rw [hname]
    exact Bool.eq_false_iff.2 fun hblank => by simp [not_isNameChar_of_isBlank hblank] at hc
  have hstop : (d.rest ++ d.trail).head?.any isNameChar = false := by
    cases hrest : d.rest with
    | cons c cs => simpa [hrest] using d.apart
    | nil =>
      cases htrail : d.trail with
      | nil => rfl
      | cons c cs => exact not_isNameChar_of_isBlank (d.blank_trail c (by simp [htrail]))
  have hstart : trimStart d.text = d.name ++ (d.rest ++ d.trail) := by
    rw [text, List.append_assoc, List.append_assoc]
    exact trimStart_of_run d.blank_lead hhead
  rw [parameterName_eq, hstart]
  exact (takeWhile_of_run d.isName.name hstop).1

theorem isBlankText_text (d : Declaration) : isBlankText d.text = false := by
  have hname := d.isName.isBlankText_eq
  rw [isBlankText] at hname
  simp [text, isBlankText, hname]

end Declaration

/-- A list that declares parameters. With an `ending` a comma stands behind the last one, and the ending
behind the comma. -/
def declare (ds : List Declaration) (ending : Option Text) : Text :=
  join [','] (ds.map Declaration.text ++ ending.toList)

variable {ds : List Declaration} {ending : Option Text}

/-- The entries of a list are its declarations, and the white space behind a last comma. -/
theorem splitTopLevel_declare (hending : ∀ ws ∈ ending, ∀ c ∈ ws, isBlank c = true)
    (hne : ds.map Declaration.text ++ ending.toList ≠ []) :
    splitTopLevel (declare ds ending) ',' = ds.map Declaration.text ++ ending.toList := by
  refine splitTopLevel_join hne (List.forall_mem_append.2 ⟨fun x hx => ?_, fun ws hws => ?_⟩)
  · obtain ⟨d, -, rfl⟩ := List.mem_map.1 hx
    exact d.isEntry_text
  · exact isEntry_of_blanks (hending ws (Option.mem_toList.1 hws))

theorem parameterNames_declare (hending : ∀ ws ∈ ending, ∀ c ∈ ws, isBlank c = true)
    (hne : ds.map Declaration.text ++ ending.toList ≠ []) :
    parameterNames (declare ds ending) = ds.map Declaration.name := by
  have hnames : (ds.map Declaration.text).map parameterName = ds.map Declaration.name := by
    rw [List.map_map]
    exact List.map_congr_left fun d _ => d.parameterName_text
  have hall : (ds.map Declaration.name).filter (· ≠ []) = ds.map Declaration.name := by
    refine List.filter_eq_self.2 fun name hname => ?_
    obtain ⟨d, -, rfl⟩ := List.mem_map.1 hname
    simpa using d.isName.ne_nil
  have hlast : (ending.toList.map parameterName).filter (· ≠ []) = [] := by
    refine List.filter_eq_nil_iff.2 fun name hname => ?_
    obtain ⟨ws, hws, rfl⟩ := List.mem_map.1 hname
    simp [parameterName_of_blanks (hending ws (Option.mem_toList.1 hws))]
  rw [parameterNames, splitTopLevel_declare hending hne, List.map_append, hnames, List.filter_append,
    hall, hlast, List.append_nil]

theorem parameterCount_declare (hending : ∀ ws ∈ ending, ∀ c ∈ ws, isBlank c = true)
    (hne : ds.map Declaration.text ++ ending.toList ≠ []) :
    parameterCount (declare ds ending) = ds.length := by
  have hall : (ds.map Declaration.text).filter (!isBlankText ·) = ds.map Declaration.text := by
    refine List.filter_eq_self.2 fun x hx => ?_
    obtain ⟨d, -, rfl⟩ := List.mem_map.1 hx
    rw [d.isBlankText_text]
    rfl
  have hlast : ending.toList.filter (!isBlankText ·) = [] := by
    refine List.filter_eq_nil_iff.2 fun ws hws => ?_
    simp [isBlankText_iff.2 (hending ws (Option.mem_toList.1 hws))]
  rw [parameterCount, splitTopLevel_declare hending hne, List.filter_append, hall, hlast,
    List.append_nil, List.length_map]

/-- **Stripping inverts declaring.** Whatever parameters a list declares, with white space around each of
them, with or without a comma behind the last one: without constraints and defaults it is the list of
their names, and it has as many parameters. -/
theorem stripConstraints_declare (ds : List Declaration) (ending : Option Text)
    (hending : ∀ ws ∈ ending, ∀ c ∈ ws, isBlank c = true) :
    stripConstraints (declare ds ending) = join [',', ' '] (ds.map Declaration.name) ∧
      parameterCount (declare ds ending) = ds.length := by
  by_cases hne : ds.map Declaration.text ++ ending.toList = []
  · obtain ⟨hds, hnone⟩ := List.append_eq_nil_iff.1 hne
    rw [List.map_eq_nil_iff] at hds
    rw [declare, hne, hds]
    exact ⟨rfl, rfl⟩
  · rw [stripConstraints, parameterNames_declare hending hne]
    exact ⟨rfl, parameterCount_declare hending hne⟩

/-- A constraint that is a type with arguments, a default that is an arrow, and a last comma. -/
theorem stripConstraints_declare_arrow :
    (∀ ws ∈ some "\n".toList, ∀ c ∈ ws, isBlank c = true) ∧
      stripConstraints "T extends Map<string, 'a,b'>, F = (a, b) => [a] ,\n".toList = "T, F".toList ∧
      parameterCount "T extends Map<string, 'a,b'>, F = (a, b) => [a] ,\n".toList = 2 := by
  have hending : ∀ ws ∈ some "\n".toList, ∀ c ∈ ws, isBlank c = true := by
    rintro ws ⟨⟩
    exact isBlankText_iff.1 (by decide +kernel)
  let constrained : Declaration :=
    { lead := [], name := "T".toList, rest := " extends Map<string, 'a,b'>".toList, trail := []
      blank_lead := nofun, blank_trail := nofun
      isName := ⟨by decide, List.all_eq_true.1 (by decide +kernel)⟩
      apart := by decide +kernel
      isEntry := by decide +kernel }
  let defaulted : Declaration :=
    { lead := " ".toList, name := "F".toList, rest := " = (a, b) => [a]".toList, trail := " ".toList
      blank_lead := isBlankText_iff.1 (by decide +kernel)
      blank_trail := isBlankText_iff.1 (by decide +kernel)
      isName := ⟨by decide, List.all_eq_true.1 (by decide +kernel)⟩
      apart := by decide +kernel
      isEntry := by decide +kernel }
  exact ⟨hending, stripConstraints_declare [constrained, defaulted] (some "\n".toList) hending⟩

end Multidialect.Text
