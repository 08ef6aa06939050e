import Multidialect.Unicode.Classes

/-! # Dialects

The SQL dialects that modules are generated for.

* `Dialect.ofTag?`: the dialect that a directive names.
* `Dialect.read?`: the dialect that a user names, in any case and with the common synonyms.
-/

namespace Multidialect

/-- A SQL dialect. -/
inductive Dialect where
  | pg
  | mysql
  | sqlite
  deriving DecidableEq, Repr

namespace Dialect

/-- Every dialect, in the order in which they are generated. -/
def all : List Dialect := [.pg, .mysql, .sqlite]

/-- The dialect's name: its tag in directives, the name of its output directory, and the literal
that stands for it. -/
def name : Dialect → String
  | .pg => "pg"
  | .mysql => "mysql"
  | .sqlite => "sqlite"

instance : ToString Dialect := ⟨name⟩

/-- The dialect with a given name. -/
def ofTag? (tag : String) : Option Dialect := all.find? (·.name == tag)

/-- The dialect that `text` names, whatever its case. -/
def read? (text : String) : Option Dialect :=
  match String.ofList (text.toList.map Char.toLower) with
  | "pg" | "postgres" | "postgresql" => some .pg
  | "mysql" => some .mysql
  | "sqlite" => some .sqlite
  | _ => none

/-- What to say of a text that names no dialect. -/
def unknownMessage (text : String) : String :=
  s!"unknown dialect '{text}', expected 'pg', 'mysql' or 'sqlite'"

/-! ## Lemmas -/

theorem mem_all (d : Dialect) : d ∈ all := by cases d <;> decide

theorem name_inj {d e : Dialect} : d.name = e.name ↔ d = e := by
  cases d <;> cases e <;> simp [name]

theorem ofTag?_name (d : Dialect) : ofTag? d.name = some d := by cases d <;> rfl

theorem ofTag?_eq_some {tag : String} {d : Dialect} : ofTag? tag = some d ↔ tag = d.name := by
  constructor
  · intro h
    have := List.find?_some h
    exact (beq_iff_eq.1 this).symm
  · rintro rfl
    exact ofTag?_name d

end Dialect

end Multidialect
