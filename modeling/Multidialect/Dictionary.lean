/-! # Dictionaries

Values under text keys, in the order in which the keys were first put in. Putting a value under a
key that is there replaces the value and keeps the place.

* `get?_insert`: what an insertion does to a look-up.
* `insertNew`: the same discipline for plain keys.
-/

namespace Multidialect

/-- Values under keys, in order. -/
abbrev Dictionary (α : Type) := List (String × α)

namespace Dictionary

variable {α : Type}

/-- The value under a key. -/
def get? (d : Dictionary α) (key : String) : Option α := d.lookup key

/-- The keys, in order. -/
def keys (d : Dictionary α) : List String := d.map Prod.fst

/-- The dictionary with a value under a key. -/
def insert (d : Dictionary α) (key : String) (value : α) : Dictionary α :=
  match d with
  | [] => [(key, value)]
  | (k, v) :: rest =>
    if k = key then (k, value) :: rest else (k, v) :: insert rest key value

/-- The dictionary with all entries of another put in, in order. -/
def extend (d more : Dictionary α) : Dictionary α :=
  more.foldl (fun d entry => d.insert entry.1 entry.2) d

/-- The list with a key at its end, unless it holds the key already. -/
def insertNew (ks : List String) (key : String) : List String :=
  if key ∈ ks then ks else ks ++ [key]

/-- The keys of a list in order, each once. -/
def distinct (ks : List String) : List String := ks.foldl insertNew []

/-! ## Lemmas -/

theorem get?_insert (d : Dictionary α) (key k : String) (value : α) :
    (d.insert key value).get? k = if k = key then some value else d.get? k := by
  induction d with
  | nil =>
    by_cases h : k = key
    · simp [insert, get?, h]
    · simp [insert, get?, List.lookup_cons, h, beq_eq_false_iff_ne.2 h]
  | cons entry rest ih =>
    obtain ⟨k', v'⟩ := entry
    simp only [get?] at ih
    by_cases h' : k' = key
    · subst h'
      by_cases h : k = k'
      · simp [insert, get?, h]
      · simp [insert, get?, List.lookup_cons, h, beq_eq_false_iff_ne.2 h]
    · by_cases h : k = k'
      · simp [insert, get?, h, h']
      · simp [insert, get?, List.lookup_cons, h', beq_eq_false_iff_ne.2 h, ih]

end Dictionary

end Multidialect
