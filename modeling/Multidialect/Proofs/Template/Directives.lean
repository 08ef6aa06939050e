import Multidialect.Proofs.Outcome
import Multidialect.Proofs.Template.Sites
import Multidialect.Template.Directive

/-! # What directives say and do

The code of an insertion is the end of its line, trimmed (`Directive.exists_code_of_parse?`), and it
is given the terminator of that line (`Directive.lineEnding_eq_iff`). When
the directives of a text are carried out, each line is kept, left out, or makes place for the line
that it puts in (`Directive.Resolved`).
-/

namespace Multidialect

open Text

theorem Text.comment?_eq_some {line comment : Text} (h : comment? line = some comment) :
    ∃ front, trim line = front ++ comment := by
  obtain ⟨said, hsaid, rfl⟩ := Option.map_eq_some_iff.1 h
  refine ⟨['/', '/'] ++ said.takeWhile isBlank, ?_⟩
  rw [List.append_assoc, takeWhile_append_trimStart, stripStart?_eq_some.1 hsaid]

namespace Directive

theorem insertion?_eq_some {comment : Text} {d : Directive} (h : insertion? comment = some d) :
    ∃ front code, comment = front ++ code ∧ d.action = .insert (trim code) := by
  unfold insertion? at h
  split at h
  · rename_i tag code hsplit
    split at h
    · obtain rfl := Option.some.inj h
      exact ⟨tag ++ insertWord, code, splitOnce?_append hsplit, rfl⟩
    · cases h
  · cases h

theorem removal?_eq_some {comment : Text} {d : Directive} (h : removal? comment = some d) :
    d.action = .removeNextLine := by
  unfold removal? at h
  split at h
  · split at h
    · obtain rfl := Option.some.inj h
      rfl
    · cases h
  · cases h

/-- The code that is put in is the end of the line, trimmed. -/
theorem exists_code_of_parse? {line code : Text} {d : Directive} (h : parse? line = some d)
    (hcode : d.action = .insert code) :
    ∃ front more, trim line = front ++ more ∧ code = trim more := by
  unfold parse? at h
  split at h
  · cases h
  · rename_i comment hcomment
    obtain ⟨front, hline⟩ := comment?_eq_some hcomment
    rcases Option.or_eq_some_iff.1 h with h | ⟨-, h⟩
    · obtain ⟨tag, more, rfl, haction⟩ := insertion?_eq_some h
      rw [haction] at hcode
      refine ⟨front ++ tag, more, ?_, (DirectiveAction.insert.inj hcode).symm⟩
      rw [hline, List.append_assoc]
    · rw [removal?_eq_some h] at hcode
      cases hcode

/-! ## What ends a line -/

/-- The terminator of a line: the carriage returns and line feeds at its end, all of them. -/
def IsTerminator (ending line : Text) : Prop :=
  ∃ front, line = front ++ ending ∧ (∀ c ∈ ending, c = '\r' ∨ c = '\n') ∧
    ∀ c ∈ front.getLast?, c ≠ '\r' ∧ c ≠ '\n'

theorem isTerminator_lineEnding (line : Text) : IsTerminator (lineEnding line) line := by
  refine ⟨(line.reverse.dropWhile fun c => c == '\r' || c == '\n').reverse, ?_, ?_, ?_⟩
  · rw [lineEnding, ← List.reverse_append, List.takeWhile_append_dropWhile, List.reverse_reverse]
  · intro c hc
    simpa using all_takeWhile c (List.mem_reverse.1 hc)
  · intro c hc
    have hstop := line.reverse.head?_dropWhile_not fun c => c == '\r' || c == '\n'
    rw [List.getLast?_reverse] at hc
    rw [hc] at hstop
    simpa using hstop

/-- A line has one terminator. -/
theorem lineEnding_eq_iff {line ending : Text} :
    lineEnding line = ending ↔ IsTerminator ending line := by
  constructor
  · rintro rfl
    exact isTerminator_lineEnding line
  · rintro ⟨front, rfl, hending, hfront⟩
    have hrun : ∀ c ∈ ending.reverse, (c == '\r' || c == '\n') = true := by simpa using hending
    have hstop : front.reverse.head?.any (fun c => c == '\r' || c == '\n') = false := by
      rw [List.head?_reverse, Option.any_eq_false]
      simpa using hfront
    rw [lineEnding, List.reverse_append, (takeWhile_of_run hrun hstop).1, List.reverse_reverse]

/-! ## Carrying directives out -/

/-- Lines with directives carried out, whichever they are: each line is kept, left out, or makes
place for what it says. -/
inductive Resolved : List Text → Text → Prop
  | nil : Resolved [] []
  | keep {ls : List Text} {t : Text} (line : Text) : Resolved ls t →
      Resolved (line :: ls) (line ++ t)
  | drop {ls : List Text} {t : Text} (line : Text) : Resolved ls t → Resolved (line :: ls) t
  | put {ls : List Text} {t line code : Text} {d : Directive} : parse? line = some d →
      d.action = .insert code → Resolved ls t → Resolved (line :: ls) (insertedLine line code ++ t)

theorem resolved_of_resolveFrom {dialect : Dialect} {n : Nat} {ls : List Text} {t : Text}
    (h : resolveFrom dialect n ls = .ok t) : Resolved ls t := by
  fun_induction resolveFrom dialect n ls generalizing t with
  | case1 =>
    obtain rfl := Except.ok.inj h
    exact .nil
  | case2 n line rest hnone ih =>
    obtain ⟨tail, htail, h⟩ := bind_eq_ok.1 h
    obtain rfl := pure_eq_ok.1 h
    exact .keep line (ih htail)
  | case3 n line rest d hparse ihRest ihDropped =>
    obtain ⟨target, -, h⟩ := bind_eq_ok.1 h
    split at h
    · rename_i code haction
      obtain ⟨tail, htail, h⟩ := bind_eq_ok.1 h
      obtain rfl := pure_eq_ok.1 h
      -- An insertion for another dialect leaves nothing behind.
      split
      · exact .put hparse haction (ihRest htail)
      · exact .drop line (ihRest htail)
    · cases rest with
      | nil => cases h
      | cons dropped rest =>
        dsimp only at h ihDropped
        split at h
        · exact .drop line (.drop dropped (ihDropped.1 h))
        · exact .drop line (ihDropped.2 h)

end Directive

end Multidialect
