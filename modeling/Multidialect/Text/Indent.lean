import Multidialect.Text.Lines

/-! # Indentation

The indentation of a line is its leading run of spaces and tabs. Blank lines, which may hold any
white space, have no say in the indentation of a block and come out empty.

* `dedent`: removes the indentation shared by all lines.
* `reindent`: moves a block to a new indentation, without the blank lines around it.
-/

namespace Multidialect.Text

/-- A space or a tab. -/
def isIndentChar (c : Char) : Bool := c == ' ' || c == '\t'

/-- The leading spaces and tabs of a line. -/
def indentation (line : Text) : Text := line.takeWhile isIndentChar

/-- The least indentation among the lines that are not blank. -/
def commonIndent (ls : List Text) : Nat :=
  (((ls.filter (!isBlankText ·)).map (indentation · |>.length)).min?).getD 0

/-- The lines with the same number of characters removed from each, blank lines emptied. -/
def outdentLines (n : Nat) (ls : List Text) : List Text :=
  ls.map fun line => if isBlankText line then [] else line.drop n

/-- The text with the indentation common to its lines removed. -/
def dedent (t : Text) : Text := unlines (outdentLines (commonIndent (lines t)) (lines t))

/-- The lines from the first to the last one that is not blank. -/
def trimBlankLines (ls : List Text) : List Text :=
  ((ls.dropWhile isBlankText).reverse.dropWhile isBlankText).reverse

/-- A line at an indentation; an empty line stays empty. -/
def indentLine (indent line : Text) : Text := if line = [] then [] else indent ++ line

/-- The text moved to the indentation `indent`, without the blank lines at either end and without a
final terminator. -/
def reindent (t indent : Text) : Text :=
  unlines ((lines (dedent (unlines (trimBlankLines (lines t))))).map (indentLine indent))

end Multidialect.Text
