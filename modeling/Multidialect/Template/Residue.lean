import Multidialect.Template.Directive
import Multidialect.Template.Region

/-! # Residue

What must not be left in a finished module: lines that are still directives or markers.
-/

namespace Multidialect

open Text

/-- Whether a line is a directive or a marker. -/
def Text.isTemplateSyntax (line : Text) : Bool := (Directive.parse? line).isSome || isMarker line

/-- The first of the lines from line `n` on that is a directive or a marker, with its number. -/
def residueFrom? (n : Nat) : List Text → Option (Nat × Text)
  | [] => none
  | line :: rest => if isTemplateSyntax line then some (n, trim line) else residueFrom? (n + 1) rest

/-- The first line of a text that is a directive or a marker, trimmed, with its number. -/
def residue? (t : Text) : Option (Nat × Text) := residueFrom? 1 (lines t)

end Multidialect
