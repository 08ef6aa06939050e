import Multidialect.Text.Basic
import Multidialect.Sorting

/-! # TOML values

The values of a TOML document. A table's entries are sorted by key. Numbers with a fraction and
moments in time have no use in a manifest; they are kept as they are written.
-/

namespace Multidialect.Toml

open Text

/-- A value of a TOML document. -/
inductive Value where
  | string (s : String)
  | integer (n : Int)
  | fraction (written : Text)
  | boolean (b : Bool)
  | moment (written : Text)
  | array (elements : List Value)
  | table (entries : List (String × Value))
  deriving Repr

/-- The entries of a table. -/
abbrev Entries := List (String × Value)

/-- The entries in the order of their keys. -/
def sortEntries (entries : Entries) : Entries := sortBy (fun a b => decide (a.1 ≤ b.1)) entries

end Multidialect.Toml
