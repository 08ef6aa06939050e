import Multidialect.Proofs.Manifest.Words
import Multidialect.Proofs.Template.Directives
import Multidialect.Proofs.Template.Sites
import Multidialect.Template.Comparison
import Multidialect.Template.Vocabulary
import Mathlib.Data.List.Basic

/-! # What the rules do to the ends of lines

Each rule that changes a template keeps the carriage return in front of every line feed, as long as
the names it works with are words (`Text.IsWord`) and the code it puts in breaks no line. White
space that a rule passes over may hold ends of lines; it is kept or repeated as a whole. Overrides
of regions are the exception: their line feeds may stand alone, and are written anew
(`Region.fill_crlfOnly`).
-/

namespace Multidialect

open Text

namespace Text

/-- A word may be exchanged for a text of the same kind. -/
theorem CrlfOnly.exchange_within {x lead word new tail y : Text}
    (h : CrlfOnly (x ++ (lead ++ word ++ tail) ++ y)) (hword : EndsApart word)
    (hnew : CrlfOnly new) : CrlfOnly (x ++ (lead ++ new ++ tail) ++ y) := by
  have hsplit : CrlfOnly ((x ++ lead) ++ word ++ (tail ++ y)) := by simpa using h
  simpa using hsplit.exchange hword hnew

theorem exchangeWord_crlfOnly {word other t : Text} (hword : IsWord word) (hother : CrlfOnly other)
    (ht : CrlfOnly t) : CrlfOnly (exchangeWord word other t) := by
  refine replaceSites_keeps (finds_wordSite word) ?_ ht
  rintro _ covered rfl x y h
  exact h.exchange hword.endsApart hother

end Text

/-! ## What depends on the dialect alone -/

theorem Placeholder.substitute_crlfOnly {name t : Text} (hname : IsWord name) (d : Dialect)
    (ht : CrlfOnly t) : CrlfOnly (substitute name d t) := by
  have hquoted : CrlfOnly (quoted d) := .of_notMem (by cases d <;> decide)
  have hput : ∀ (around : Text × Text) (covered : Text), covered = around.1 ++ name ++ around.2 →
      ∀ x y, CrlfOnly (x ++ covered ++ y) →
        CrlfOnly (x ++ (around.1 ++ quoted d ++ around.2) ++ y) := by
    rintro around _ rfl x y h
    exact h.exchange_within hname.endsApart hquoted
  exact replaceSites_keeps (finds_rightOperand name) hput
    (replaceSites_keeps (finds_leftOperand name) hput ht)

theorem Comparison.fold_crlfOnly {t : Text} (ht : CrlfOnly t) : CrlfOnly (fold t) := by
  refine replaceSites_keeps finds_site ?_ ht
  rintro value _ ⟨front, q, hq, rfl⟩ x y h
  cases value with
  | none => exact h
  | some b =>
    have hend : EndsApart (front ++ [q]) :=
      endsApart_concat _ (by rcases hq with rfl | rfl <;> decide)
    have hvalue : CrlfOnly (truthText b) := .of_notMem (by cases b <;> decide)
    exact h.exchange hend hvalue

/-! ## Line directives -/

namespace Directive

/-- What ends a line is cut off behind another character, if there is one. -/
theorem exists_append_lineEnding (line : Text) :
    ∃ front, line = front ++ lineEnding line ∧ (front = [] ∨ EndsApart front) := by
  obtain ⟨front, hsplit, -, hlast⟩ := isTerminator_lineEnding line
  refine ⟨front, hsplit, ?_⟩
  rcases List.eq_nil_or_concat' front with rfl | ⟨init, c, rfl⟩
  · exact .inl rfl
  · exact .inr (endsApart_concat init (hlast c (by simp)).1)

theorem insertedLine_crlfOnly {line code : Text} (hline : CrlfOnly line) (hcode : '\n' ∉ code) :
    CrlfOnly (insertedLine line code) := by
  have hindent : CrlfOnly (indentation line) := .of_notMem fun hm =>
    absurd (List.mem_takeWhile_imp hm) (by decide)
  obtain ⟨front, hsplit, hfront⟩ := exists_append_lineEnding line
  have hend : CrlfOnly (lineEnding line) := by
    rw [hsplit] at hline
    rcases hfront with rfl | hfront
    · exact hline
    · exact hline.right hfront
  exact (hindent.append (.of_notMem hcode)).append hend

theorem Resolved.crlfOnly {ls : List Text} {t : Text} (h : Resolved ls t)
    (hls : ∀ line ∈ ls, CrlfOnly line) (hfeed : ∀ line ∈ ls, '\n' ∉ trim line) : CrlfOnly t := by
  induction h with
  | nil => exact .nil
  | keep line _ ih =>
    rw [List.forall_mem_cons] at hls hfeed
    exact hls.1.append (ih hls.2 hfeed.2)
  | drop line _ ih =>
    rw [List.forall_mem_cons] at hls hfeed
    exact ih hls.2 hfeed.2
  | put hparse haction _ ih =>
    rw [List.forall_mem_cons] at hls hfeed
    obtain ⟨front, more, hline, rfl⟩ := exists_code_of_parse? hparse haction
    have hmore : '\n' ∉ more := fun hm => hfeed.1 (hline ▸ List.mem_append_right front hm)
    exact (insertedLine_crlfOnly hls.1 (notMem_trim hmore)).append (ih hls.2 hfeed.2)

theorem resolve_crlfOnly {dialect : Dialect} {t result : Text} (ht : CrlfOnly t)
    (h : resolve dialect t = .ok result) : CrlfOnly result :=
  (resolved_of_resolveFrom h).crlfOnly (returnLines_physicalLines ht).crlfOnly
    fun _ hline => notMem_trim_of_mem_physicalLines hline

theorem resolveAll_crlfOnly {dialect : Dialect} {placeholder t result : Text}
    (hplaceholder : IsWord placeholder) (ht : CrlfOnly t)
    (h : resolveAll dialect placeholder t = .ok result) : CrlfOnly result := by
  obtain ⟨resolved, hresolved, rfl⟩ := map_eq_ok.1 h
  exact Comparison.fold_crlfOnly
    (Placeholder.substitute_crlfOnly hplaceholder dialect (resolve_crlfOnly ht hresolved))

end Directive

/-! ## Type parameters -/

theorem TypeParams.permissive_crlfOnly (p : TypeParams) : CrlfOnly p.permissive := by
  refine .join (.of_notMem (by decide)) fun t ht => ?_
  rw [List.eq_of_mem_replicate ht]
  exact .of_notMem (by decide)

/-- Names of parameters hold no white space, whatever the declaration looks like. -/
theorem TypeParams.arguments_crlfOnly (p : TypeParams) : CrlfOnly p.arguments := by
  refine .join (.of_notMem (by decide)) fun name hname => .of_notMem fun hm => ?_
  obtain ⟨parameter, -, rfl⟩ := List.mem_map.1 (List.mem_of_mem_filter hname)
  exact absurd (List.mem_takeWhile_imp hm) (by decide +kernel)

namespace Generics

/-- Parameters in front of a parameter list: the white space that it starts with may end lines, and
is then repeated as a whole. -/
theorem extended_crlfOnly {x front blanks params y : Text}
    (h : CrlfOnly (x ++ (front ++ '<' :: blanks) ++ y)) (hparams : CrlfOnly params) :
    CrlfOnly (x ++ (front ++ '<' :: blanks ++ params ++ separator blanks) ++ y) := by
  have hopen : EndsApart (x ++ front ++ ['<']) := endsApart_concat _ (by decide)
  have hcut : CrlfOnly (x ++ front ++ ['<'] ++ (blanks ++ y)) := by simpa using h
  have hblanks : CrlfOnly blanks := (hcut.right hopen).left
  -- What is put in stands between two copies of the white space, or behind `<` where there is none.
  unfold separator
  split
  · rename_i hnil
    subst hnil
    have hnew : CrlfOnly (params ++ [',', ' ']) := hparams.append (.of_notMem (by decide))
    simpa using hcut.insert hopen hnew
  · have hnew : CrlfOnly (blanks ++ params ++ [',']) :=
      (hblanks.append hparams).append (.of_notMem (by decide))
    simpa using hcut.insert hopen hnew

variable {p : TypeParams}

theorem injectBuilder_crlfOnly (name : Text) {t : Text} (hcode : '\n' ∉ p.code) (ht : CrlfOnly t) :
    CrlfOnly (injectBuilder name p t) := by
  refine replaceSites_keeps (finds_builderSite name) ?_ ht
  rintro o _ ⟨front, rfl⟩ x y h
  refine extended_crlfOnly h ?_
  split
  · exact .of_notMem hcode
  · exact p.permissive_crlfOnly

theorem injectQuery_crlfOnly (name : Text) {t : Text} (ht : CrlfOnly t) :
    CrlfOnly (injectQuery name p t) := by
  refine replaceSites_keeps (finds_querySite name) ?_ ht
  rintro blanks _ rfl x y h
  exact extended_crlfOnly h p.arguments_crlfOnly

theorem injectQueries_crlfOnly (names : List String) {t : Text} (ht : CrlfOnly t) :
    CrlfOnly (injectQueries p names t).1 := by
  induction names generalizing t with
  | nil => exact ht
  | cons name names ih => exact ih (injectQuery_crlfOnly name.toList ht)

theorem inject_crlfOnly (types : TypeNames) {t : Text} (hcode : '\n' ∉ p.code) (ht : CrlfOnly t) :
    CrlfOnly (inject types p t).1 :=
  injectQueries_crlfOnly types.queries (injectBuilder_crlfOnly types.builder.toList hcode ht)

end Generics

/-! ## The vocabulary -/

theorem Session.addParams_crlfOnly {session params t : Text} (hsession : IsWord session)
    (hparams : '\n' ∉ params) (ht : CrlfOnly t) : CrlfOnly (addParams session params t) := by
  refine replaceSites_keeps (finds_site session) ?_ ht
  intro hasArguments covered hcovered x y h
  cases hasArguments with
  | true => exact h
  | false =>
    obtain ⟨ws, rfl⟩ := hcovered rfl
    have hend : EndsApart (x ++ (':' :: ws ++ session)) := by
      rw [← List.append_assoc]
      exact hsession.endsApart.append _
    have hnew : CrlfOnly ('<' :: params ++ ['>']) := .of_notMem (by simp [hparams])
    simpa using h.insert hend hnew

namespace Vocabulary

theorem renameIdentifier_crlfOnly {source target t : Text} (hsource : IsWord source)
    (htarget : IsWord target) (ht : CrlfOnly t) : CrlfOnly (renameIdentifier source target t) := by
  refine replaceSites_keeps (finds_identifierSite source) ?_ ht
  rintro lead _ rfl x y h
  have hsplit : CrlfOnly (x ++ (lead ++ source ++ []) ++ y) := by simpa using h
  simpa using hsplit.exchange_within hsource.endsApart htarget.crlfOnly

variable {sessions : List String} {reference profile : Profile} {t : Text}

theorem annotate_crlfOnly (hsessions : ∀ session ∈ sessions, IsWord session.toList)
    (hparams : ∀ params, profile.sessionParams = some params → '\n' ∉ params) (ht : CrlfOnly t) :
    CrlfOnly (annotate sessions profile t) := by
  unfold annotate
  split
  · exact ht
  · rename_i params hp
    exact List.foldlRecOn sessions _ ht fun t ht session hs =>
      Session.addParams_crlfOnly (hsessions session hs) (hparams params hp) ht

theorem rename_crlfOnly {renames : Dictionary String}
    (hrenames : ∀ entry ∈ renames, IsWord entry.1.toList ∧ IsWord entry.2.toList)
    (ht : CrlfOnly t) : CrlfOnly (rename renames t) :=
  List.foldlRecOn renames _ ht fun _ ht entry he =>
    renameIdentifier_crlfOnly (hrenames entry he).1 (hrenames entry he).2 ht

theorem exchangeModules_crlfOnly (hreference : reference.WellWorded) (hprofile : profile.WellWorded)
    (ht : CrlfOnly t) : CrlfOnly (exchangeModules reference profile t) := by
  have hdash : IsWord ['-'] := ⟨by decide, by decide, by decide⟩
  unfold exchangeModules
  split
  · exact ht
  · exact exchangeWord_crlfOnly (hreference.modulePrefix.append hdash)
      (hprofile.modulePrefix.append hdash).crlfOnly ht

theorem exchangeTypes_crlfOnly (hreference : reference.WellWorded) (hprofile : profile.WellWorded)
    (ht : CrlfOnly t) : CrlfOnly (exchangeTypes reference profile t) := by
  unfold exchangeTypes
  split
  · exact ht
  · exact exchangeWord_crlfOnly hreference.typePrefix hprofile.typePrefix.crlfOnly ht

theorem adapt_crlfOnly (hsessions : ∀ session ∈ sessions, IsWord session.toList)
    (hreference : reference.WellWorded) (hprofile : profile.WellWorded)
    (hparams : ∀ params, profile.sessionParams = some params → '\n' ∉ params) (ht : CrlfOnly t) :
    CrlfOnly (adapt sessions reference profile t) := by
  have hannotated := annotate_crlfOnly hsessions hparams ht
  have hrenamed := rename_crlfOnly hprofile.renames hannotated
  exact exchangeTypes_crlfOnly hreference hprofile
    (exchangeModules_crlfOnly hreference hprofile hrenamed)

theorem adaptLines_crlfOnly {f : Text → Text} (hf : ∀ t, CrlfOnly t → CrlfOnly (f t))
    {chunk : Text} {ls : List Text} (hchunk : CrlfOnly chunk) (hls : ∀ line ∈ ls, CrlfOnly line) :
    CrlfOnly (adaptLines f chunk ls) := by
  induction ls generalizing chunk with
  | nil => exact hf chunk hchunk
  | cons line ls ih =>
    rw [List.forall_mem_cons] at hls
    unfold adaptLines
    split
    · exact ((hf chunk hchunk).append hls.1).append (ih .nil hls.2)
    · exact ih (hchunk.append hls.1) hls.2

theorem adaptOutsideMarkers_crlfOnly (hsessions : ∀ session ∈ sessions, IsWord session.toList)
    (hreference : reference.WellWorded) (hprofile : profile.WellWorded)
    (hparams : ∀ params, profile.sessionParams = some params → '\n' ∉ params) (ht : CrlfOnly t) :
    CrlfOnly (adaptOutsideMarkers sessions reference profile t) :=
  adaptLines_crlfOnly (fun _ => adapt_crlfOnly hsessions hreference hprofile hparams) .nil
    (returnLines_physicalLines ht).crlfOnly

end Vocabulary

/-! ## Regions -/

/-- A part of a text in which every line feed follows a carriage return. A region of it ends its
lines with both characters, so that an override comes to end its lines that way too. -/
def Segment.Returns : Segment → Prop
  | .literal t => CrlfOnly t
  | .region r => CrlfOnly r.body ∧ r.newline = .crlf

namespace Region

theorem returns_consLiteral {t : Text} {segments : List Segment} (ht : CrlfOnly t)
    (h : ∀ s ∈ segments, s.Returns) : ∀ s ∈ Segment.consLiteral t segments, s.Returns := by
  unfold Segment.consLiteral
  split
  · exact h
  · exact List.forall_mem_cons.2 ⟨ht, h⟩

/-- The end marker may be a last line that nothing ends; the start marker is followed by a line. -/
theorem newline_eq_crlf {r : Region} (hopening : terminator? r.opening = some .crlf)
    (hclosing : CrlfOnly r.closing) : r.newline = .crlf := by
  have hlf := terminator?_ne_lf hclosing
  unfold newline
  cases h : terminator? r.closing with
  | none => simp [hopening]
  | some newline => cases newline <;> simp_all

/-- An open region in front of lines: its start marker has been ended unless it is the last line. -/
def Opened.Returns (o : Opened) (rest : List Text) : Prop :=
  CrlfOnly o.body ∧ (rest ≠ [] → terminator? o.opening = some .crlf)

theorem returns_of_parseFrom {n : Nat} {seen : List (String × Nat)} {literal : Text}
    {opened : Option Opened} {ls : List Text} {segments : List Segment} (hls : ReturnLines ls)
    (hliteral : CrlfOnly literal) (hopened : ∀ o, opened = some o → o.Returns ls)
    (h : parseFrom n seen literal opened ls = .ok segments) : ∀ s ∈ segments, s.Returns := by
  -- The cases are those of the recursion: the end of the text, and then a line that is no marker,
  -- is malformed, starts a region or ends one, outside a region and inside.
  fun_induction parseFrom n seen literal opened ls generalizing segments with
  | case1 => cases h
  | case2 =>
    obtain rfl := Except.ok.inj h
    exact returns_consLiteral hliteral (by simp)
  | case3 n seen literal line rest hmarker ih =>
    exact ih hls.2.2 (hliteral.append hls.1) (by simp) h
  | case4 n seen literal line rest o hmarker ih =>
    obtain ⟨hbody, hstart⟩ := hopened o rfl
    refine ih hls.2.2 hliteral ?_ h
    rintro _ ⟨⟩
    exact ⟨hbody.append hls.1, fun _ => hstart (by simp)⟩
  | case5 => cases h
  | case6 => cases h
  | case7 => cases h
  | case8 n seen literal line rest key hmarker hnew ih =>
    obtain ⟨tail, htail, h⟩ := bind_eq_ok.1 h
    obtain rfl := pure_eq_ok.1 h
    refine returns_consLiteral hliteral (ih hls.2.2 .nil ?_ htail)
    rintro _ ⟨⟩
    exact ⟨.nil, hls.2.1⟩
  | case9 => cases h
  | case10 n seen literal line rest o hmarker ih =>
    obtain ⟨tail, htail, h⟩ := bind_eq_ok.1 h
    obtain rfl := pure_eq_ok.1 h
    obtain ⟨hbody, hstart⟩ := hopened o rfl
    have hregion : (Segment.region ⟨o.key, o.line, o.opening, o.body, line⟩).Returns :=
      ⟨hbody, newline_eq_crlf (hstart (by simp)) hls.1⟩
    exact List.forall_mem_cons.2 ⟨hregion, ih hls.2.2 .nil (by simp) htail⟩
  | case11 => cases h

theorem filled_crlfOnly (lookup : String → Option Text) {r : Region}
    (hr : (Segment.region r).Returns) : CrlfOnly (filled lookup r) := by
  unfold filled
  split
  · exact hr.1
  · dsimp only
    split
    · exact .nil
    · rw [hr.2]
      exact (CrlfOnly.flatMap_crlf _).append .crlf

/-- Whatever the overrides are. -/
theorem fill_crlfOnly (lookup : String → Option Text) {segments : List Segment}
    (h : ∀ s ∈ segments, s.Returns) : CrlfOnly (fill lookup segments) := by
  unfold fill
  rw [List.flatMap_def]
  refine .flatten fun t ht => ?_
  obtain ⟨s, hs, rfl⟩ := List.mem_map.1 ht
  cases s with
  | literal t => exact h _ hs
  | region r => exact filled_crlfOnly lookup (h _ hs)

theorem returns_of_parse {t : Text} {segments : List Segment} (ht : CrlfOnly t)
    (h : parse t = .ok segments) : ∀ s ∈ segments, s.Returns :=
  returns_of_parseFrom (returnLines_physicalLines ht) .nil (by simp) h

end Region

end Multidialect
