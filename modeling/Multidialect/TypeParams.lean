import Multidialect.Text.Nesting

/-! # Type parameters

The extra type parameters that a dialect's query builder carries, in the three forms in which they
are written: with constraints where the builder is declared, as bare names where it is applied, and
as `any` where nothing is known about them.
-/

namespace Multidialect

open Text

/-- A list of type parameters as it is declared. -/
structure TypeParams where
  code : Text
  deriving DecidableEq, Repr

namespace TypeParams

/-- The number of parameters. -/
def slots (p : TypeParams) : Nat := parameterCount p.code

/-- The names of the parameters. -/
def arguments (p : TypeParams) : Text := stripConstraints p.code

/-- One `any` for each parameter. -/
def permissive (p : TypeParams) : Text := join [',', ' '] (List.replicate p.slots ['a', 'n', 'y'])

end TypeParams

end Multidialect
