import Multidialect.Text.Basic

/-! # Lines

A text is a sequence of physical lines, each ending after its line feed, the last one perhaps
without. A line's content is what stands before its terminator, which is a line feed or a carriage
return and a line feed.

* `flatten_physicalLines`: the physical lines of a text make up the text.
* `mem_physicalLines_ne_nil`: no physical line is empty.
-/

namespace Multidialect.Text

/-- The physical lines of a text, each with its terminator. -/
def physicalLines : Text → List Text
  | [] => []
  | c :: cs =>
    if c = '\n' then [c] :: physicalLines cs
    else
      match physicalLines cs with
      | [] => [[c]]
      | line :: rest => (c :: line) :: rest

/-- How a line ends. -/
inductive Newline where
  | lf
  | crlf
  deriving DecidableEq, Repr

/-- The characters of a terminator. -/
def Newline.text : Newline → Text
  | .lf => ['\n']
  | .crlf => ['\r', '\n']

/-- The terminator of a physical line, unless it is a last line without one. -/
def terminator? (line : Text) : Option Newline :=
  match line.reverse with
  | '\n' :: '\r' :: _ => some .crlf
  | '\n' :: _ => some .lf
  | _ => none

/-- A physical line without its terminator. -/
def content (line : Text) : Text :=
  match line.reverse with
  | '\n' :: '\r' :: rest => rest.reverse
  | '\n' :: rest => rest.reverse
  | _ => line

/-- The contents of the lines of a text. -/
def lines (t : Text) : List Text := (physicalLines t).map content

/-- The lines one after another with line feeds between them. -/
def unlines (ls : List Text) : Text := join ['\n'] ls

/-! ## Lemmas -/

theorem flatten_physicalLines (t : Text) : (physicalLines t).flatten = t := by
  induction t with
  | nil => rfl
  | cons c cs ih =>
    simp only [physicalLines]
    split
    · simp [ih]
    · split
      · next h => simp [h] at ih; simp [← ih]
      · next h => rw [h] at ih; simp [← ih]

theorem mem_physicalLines_ne_nil {t line : Text} (h : line ∈ physicalLines t) : line ≠ [] := by
  induction t generalizing line with
  | nil => simp [physicalLines] at h
  | cons c cs ih =>
    simp only [physicalLines] at h
    split at h
    · rcases List.mem_cons.1 h with rfl | h
      · simp
      · exact ih h
    · split at h
      · simp_all
      · next hs =>
        rcases List.mem_cons.1 h with rfl | h
        · simp
        · exact ih (hs ▸ List.mem_cons_of_mem _ h)

end Multidialect.Text
