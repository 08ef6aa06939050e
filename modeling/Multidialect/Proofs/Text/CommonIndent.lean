import Multidialect.Proofs.Text.Indent
import Mathlib.Data.List.Forall2

/-! # The indentation that lines share

Blank lines apart, all lines of a text lose as many spaces and tabs as the least indented of them has
(`exists_length_eq_commonIndent`), so how far one line is indented beyond another is kept. As the
characters are counted and not compared, lines that are indented by spaces and lines that are indented
by tabs may lose different ones: all lines lose the same text, the longest indentation that all of them
start with, exactly if the least indentation starts every other one (`dedent_removes_shared_iff`).
-/

namespace Multidialect.Text

variable {line rest lead : Text} {ls : List Text}

/-- The indentations of the lines that are not blank. -/
def indentations (ls : List Text) : List Text := (ls.filter (!isBlankText ·)).map indentation

/-- The longest run of spaces and tabs that all lines start with, blank ones apart. -/
structure IsSharedIndent (lead : Text) (ls : List Text) : Prop where
  shared : ∀ x ∈ indentations ls, lead <+: x
  longest : indentations ls ≠ [] → ∀ other, (∀ x ∈ indentations ls, other <+: x) → other <+: lead

/-- A line and what is left of it when `lead` is taken off its indentation. -/
structure Loses (lead line rest : Text) : Prop where
  line_eq : line = lead ++ rest
  indentation_eq : indentation line = lead ++ indentation rest

/-- Lines and what is left of them when each loses `n` characters of its indentation. Blank lines
come out empty, and there is a line that loses all of its indentation. -/
structure Outdented (n : Nat) (ls rests : List Text) : Prop where
  lines : List.Forall₂
    (fun line rest =>
      if isBlankText line then rest = [] else ∃ lead, lead.length = n ∧ Loses lead line rest) ls rests
  least : indentations ls ≠ [] → ∃ x ∈ indentations ls, x.length = n

/-! ## The least indentation -/

theorem mem_indentations {x : Text} :
    x ∈ indentations ls ↔ ∃ line ∈ ls, isBlankText line = false ∧ indentation line = x := by
  simp [indentations, and_assoc]

theorem isPrefix_indentation (line : Text) : indentation line <+: line := List.takeWhile_prefix _

theorem length_indentation_le (line : Text) : (indentation line).length ≤ line.length :=
  (isPrefix_indentation line).length_le

theorem commonIndent_eq (ls : List Text) :
    commonIndent ls = ((indentations ls).map List.length).min?.getD 0 := by
  rw [commonIndent, indentations, List.map_map]
  rfl

theorem commonIndent_le_length {x : Text} (h : x ∈ indentations ls) : commonIndent ls ≤ x.length := by
  obtain ⟨line, hm, hline, rfl⟩ := mem_indentations.1 h
  exact commonIndent_le hm hline

/-- **The common indentation** is that of some line. -/
theorem exists_length_eq_commonIndent (h : indentations ls ≠ []) :
    ∃ x ∈ indentations ls, x.length = commonIndent ls := by
  rw [commonIndent_eq]
  cases hmin : ((indentations ls).map List.length).min? with
  | none => exact absurd (List.map_eq_nil_iff.1 (List.min?_eq_none_iff.1 hmin)) h
  | some n => exact List.mem_map.1 (List.min?_eq_some_iff.1 hmin).1

theorem commonIndent_eq_of_least {x : Text} (hx : x ∈ indentations ls)
    (hle : ∀ y ∈ indentations ls, x.length ≤ y.length) : commonIndent ls = x.length := by
  obtain ⟨y, hy, hlength⟩ := exists_length_eq_commonIndent (List.ne_nil_of_mem hx)
  exact Nat.le_antisymm (commonIndent_le_length hx) (hlength ▸ hle y hy)

/-! ## Taking characters off a line -/

theorem indentation_append (h : ∀ c ∈ lead, isIndentChar c = true) (rest : Text) :
    indentation (lead ++ rest) = lead ++ indentation rest :=
  List.takeWhile_append_of_pos h

theorem loses_of_le {n : Nat} (h : n ≤ (indentation line).length) :
    Loses (line.take n) line (line.drop n) := by
  have hsplit : line.take n ++ line.drop n = line := List.take_append_drop n line
  have htaken : line.take n <+: indentation line :=
    List.prefix_of_prefix_length_le (List.take_prefix n line) (isPrefix_indentation line)
      ((List.length_take_le n line).trans h)
  refine ⟨hsplit.symm, ?_⟩
  rw [← indentation_append (fun c hc => List.mem_takeWhile_imp (htaken.subset hc)), hsplit]

theorem outdented_outdentLines (ls : List Text) :
    Outdented (commonIndent ls) ls (outdentLines (commonIndent ls) ls) := by
  refine ⟨List.forall₂_map_right_iff.2 (List.forall₂_same.2 fun line hm => ?_),
    exists_length_eq_commonIndent⟩
  cases hline : isBlankText line with
  | true => rfl
  | false =>
    have hle := commonIndent_le hm hline
    exact ⟨line.take (commonIndent ls),
      List.length_take_of_le (hle.trans (length_indentation_le line)), loses_of_le hle⟩

/-- Lines that lose equally much are indented beyond one another as before. -/
theorem Outdented.relative {n : Nat} {rests : List Text} (h : Outdented n ls rests) :
    ∀ p ∈ ls.zip rests, ∀ p' ∈ ls.zip rests, isBlankText p.1 = false → isBlankText p'.1 = false →
      (indentation p.1).length + (indentation p'.2).length =
        (indentation p'.1).length + (indentation p.2).length := by
  have hloss : ∀ p ∈ ls.zip rests, isBlankText p.1 = false →
      (indentation p.1).length = n + (indentation p.2).length := by
    rintro ⟨line, rest⟩ hp hline
    have hlost := List.forall₂_zip h.lines hp
    rw [hline] at hlost
    obtain ⟨lead, rfl, hloses⟩ := hlost
    rw [hloses.indentation_eq, List.length_append]
  intro p hp p' hp' hline hline'
  rw [hloss p hp hline, hloss p' hp' hline']
  omega

/-! ## Taking the same text off each line -/

/-- What a line loses is as long as what another one loses. -/
theorem Loses.length_eq {n : Nat} (h : Loses lead line (line.drop n)) (hn : n ≤ line.length) :
    lead.length = n := by
  have hlength := congrArg List.length h.line_eq
  rw [List.length_append, List.length_drop] at hlength
  omega

/-- The least indentation starts every line exactly if all lines lose the same text, the longest that
all of them start with. -/
theorem exists_isSharedIndent_iff (ls : List Text) :
    (∃ lead, IsSharedIndent lead ls ∧
        ∀ line ∈ ls, isBlankText line = false → Loses lead line (line.drop (commonIndent ls))) ↔
      ∀ least ∈ indentations ls, (∀ x ∈ indentations ls, least.length ≤ x.length) →
        ∀ x ∈ indentations ls, least <+: x := by
  constructor
  · rintro ⟨lead, hlead, hloses⟩ least hleast hle x hx
    obtain ⟨line, hm, hline, hindent⟩ := mem_indentations.1 hleast
    have hcommon := commonIndent_eq_of_least hleast hle
    have hlength : lead.length = least.length := by
      rw [← hcommon]
      exact (hloses line hm hline).length_eq
        ((commonIndent_le hm hline).trans (length_indentation_le line))
    rw [← (hlead.shared least hleast).eq_of_length hlength]
    exact hlead.shared x hx
  · intro h
    by_cases hnone : indentations ls = []
    · refine ⟨[], ⟨fun x _ => List.nil_prefix, fun hne => absurd hnone hne⟩, fun line hm hline => ?_⟩
      have hx : indentation line ∈ indentations ls := mem_indentations.2 ⟨line, hm, hline, rfl⟩
      rw [hnone] at hx
      cases hx
    · obtain ⟨least, hleast, hlength⟩ := exists_length_eq_commonIndent hnone
      have hshared := h least hleast fun x hx => hlength ▸ commonIndent_le_length hx
      refine ⟨least, ⟨hshared, fun _ other hother => hother least hleast⟩, fun line hm hline => ?_⟩
      have hprefix : least <+: line :=
        (hshared _ (mem_indentations.2 ⟨line, hm, hline, rfl⟩)).trans (isPrefix_indentation line)
      have htake : least = line.take (commonIndent ls) := hlength ▸ List.prefix_iff_eq_take.1 hprefix
      rw [htake]
      exact loses_of_le (commonIndent_le hm hline)

/-- **Removing the common indentation.** Of each line that is not blank the same number of spaces and
tabs is removed, never more than its indentation, and nothing else, so the lines are indented beyond one
another as before. All lines lose one and the same text, the longest indentation that all of them start
with, exactly if the least indentation starts every other one. -/
theorem dedent_removes_shared_iff (t : Text) :
    ∃ n rests, dedent t = unlines rests ∧ Outdented n (lines t) rests ∧
      (∀ p ∈ (lines t).zip rests, ∀ p' ∈ (lines t).zip rests,
        isBlankText p.1 = false → isBlankText p'.1 = false →
          (indentation p.1).length + (indentation p'.2).length =
            (indentation p'.1).length + (indentation p.2).length) ∧
      ((∃ lead, IsSharedIndent lead (lines t) ∧
          List.Forall₂ (fun line rest => isBlankText line = false → Loses lead line rest)
            (lines t) rests) ↔
        ∀ least ∈ indentations (lines t),
          (∀ x ∈ indentations (lines t), least.length ≤ x.length) →
            ∀ x ∈ indentations (lines t), least <+: x) := by
  have hout := outdented_outdentLines (lines t)
  refine ⟨_, _, rfl, hout, hout.relative, ?_⟩
  rw [← exists_isSharedIndent_iff]
  refine exists_congr fun lead => and_congr_right fun _ => ?_
  rw [outdentLines, List.forall₂_map_right_iff, List.forall₂_same]
  refine forall₂_congr fun line _ => forall_congr' fun hline => ?_
  rw [if_neg (by simp [hline])]

/-- A tab and a space share no indentation, and yet both are removed. -/
theorem dedent_removes_unlike :
    lines "\ta\n b".toList = ["\ta".toList, " b".toList] ∧
      IsSharedIndent [] (lines "\ta\n b".toList) ∧ dedent "\ta\n b".toList = "a\nb".toList := by
  have hindents : indentations (lines "\ta\n b".toList) = ["\t".toList, " ".toList] := by
    decide +kernel
  refine ⟨by decide +kernel, ⟨fun x _ => List.nil_prefix, fun _ other hother => ?_⟩, by decide +kernel⟩
  rw [hindents] at hother
  have htab : other <+: ['\t'] := hother _ (.head _)
  have hspace : other <+: [' '] := hother _ (.tail _ (.head _))
  cases other with
  | nil => exact List.prefix_rfl
  | cons c other =>
    have hc : c = '\t' := (List.cons_prefix_cons.1 htab).1
    have hc' : c = ' ' := (List.cons_prefix_cons.1 hspace).1
    exact absurd (hc.symm.trans hc') (by decide)

end Multidialect.Text
