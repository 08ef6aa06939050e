import Multidialect.Unicode.CaseFold
import Multidialect.Unicode.Classes
import Multidialect.Unicode.Script

/-! # Sets of characters in patterns

A pattern describes sets of characters by ranges, by classes, and by set operations on those. A set
is kept as it is described, and a character is tested against the description.

* `CharSet.contains`: membership.
* `CharSet.property?`: the set that a Unicode property names, whatever the spelling of the name.
-/

namespace Multidialect

open Unicode

/-- A set of characters, as a pattern describes it. -/
inductive CharSet where
  | none
  | range (lo hi : Char)
  | table (ranges : Ranges)
  | word
  | digit
  | space
  | complement (s : CharSet)
  | union (s t : CharSet)
  | inter (s t : CharSet)
  | diff (s t : CharSet)
  | symmDiff (s t : CharSet)
  /-- All characters that differ from one of `s` in case alone. -/
  | anyCase (s : CharSet)
  deriving Repr

namespace CharSet

/-- Whether a character is in a set. -/
def contains : CharSet → Char → Bool
  | .none, _ => false
  | .range lo hi, c => lo ≤ c && c ≤ hi
  | .table ranges, c => ranges.contains c.toNat
  | .word, c => isWordChar c
  | .digit, c => isDecimal c
  | .space, c => isBlank c
  | .complement s, c => !s.contains c
  | .union s t, c => s.contains c || t.contains c
  | .inter s t, c => s.contains c && t.contains c
  | .diff s t, c => s.contains c && !t.contains c
  | .symmDiff s t, c => s.contains c != t.contains c
  | .anyCase s, c => (caseVariants c.toNat).any fun n => s.contains (Char.ofNat n)

/-- The set of one character. -/
def singleton (c : Char) : CharSet := .range c c

/-- All characters. -/
def all : CharSet := .complement .none

/-- The union of sets. -/
def unionAll (sets : List CharSet) : CharSet := sets.foldl .union .none

/-- The set of the characters in some ranges. -/
def ofPairs (pairs : List (Char × Char)) : CharSet :=
  unionAll (pairs.map fun (lo, hi) => .range lo hi)

/-- The classes of ASCII characters by name. -/
def ascii? : String → Option CharSet
  | "alnum" => some (ofPairs [('0', '9'), ('A', 'Z'), ('a', 'z')])
  | "alpha" => some (ofPairs [('A', 'Z'), ('a', 'z')])
  | "ascii" => some (ofPairs [('\x00', '\x7f')])
  | "blank" => some (ofPairs [('\t', '\t'), (' ', ' ')])
  | "cntrl" => some (ofPairs [('\x00', '\x1f'), ('\x7f', '\x7f')])
  | "digit" => some (ofPairs [('0', '9')])
  | "graph" => some (ofPairs [('!', '~')])
  | "lower" => some (ofPairs [('a', 'z')])
  | "print" => some (ofPairs [(' ', '~')])
  | "punct" => some (ofPairs [('!', '/'), (':', '@'), ('[', '\x60'), ('\x7b', '~')])
  | "space" => some (ofPairs [('\t', '\r'), (' ', ' ')])
  | "upper" => some (ofPairs [('A', 'Z')])
  | "word" => some (ofPairs [('0', '9'), ('A', 'Z'), ('a', 'z'), ('_', '_')])
  | "xdigit" => some (ofPairs [('0', '9'), ('A', 'F'), ('a', 'f')])
  | _ => Option.none

/-- A name without what does not tell names apart: case, spaces, hyphens and underscores, and `is`
at the front. -/
def looseName (name : String) : String :=
  let kept := (name.toList.filter fun c => c != ' ' && c != '_' && c != '-').map Char.toLower
  match kept with
  | 'i' :: 's' :: rest => if rest = ['c'] then "isc" else String.ofList rest
  | _ => String.ofList kept

/-- The tables that a list holds under a name, united. -/
def named? (tables : List NamedRanges) (name : String) : Option CharSet :=
  (tables.find? fun t => looseName t.short == name || looseName t.long == name).map
    (.table ·.ranges)

/-- The union of the general categories with given short names. -/
def categoriesOf (shorts : List String) : CharSet :=
  unionAll ((categories.filter (shorts.contains ·.short)).map (.table ·.ranges))

/-- The set of a general category, or of a group of them, by a normalized name. -/
def category? (name : String) : Option CharSet :=
  let letters := categoriesOf ["Lu", "Ll", "Lt", "Lm", "Lo"]
  let marks := categoriesOf ["Mn", "Mc", "Me"]
  let assigned := categoriesOf (categories.map (·.short))
  match name with
  | "any" => some all
  | "ascii" => ascii? "ascii"
  | "assigned" => some assigned
  | "cn" | "unassigned" => some (.complement assigned)
  | "cs" | "surrogate" => some .none
  | "c" | "other" =>
    some (.union (categoriesOf ["Cc", "Cf", "Co"]) (.complement assigned))
  | "l" | "letter" => some letters
  | "lc" | "casedletter" => some (categoriesOf ["Lu", "Ll", "Lt"])
  | "m" | "mark" | "combiningmark" => some marks
  | "n" | "number" => some (categoriesOf ["Nd", "Nl", "No"])
  | "p" | "punctuation" | "punct" =>
    some (categoriesOf ["Pc", "Pd", "Ps", "Pe", "Pi", "Pf", "Po"])
  | "s" | "symbol" => some (categoriesOf ["Sm", "Sc", "Sk", "So"])
  | "z" | "separator" => some (categoriesOf ["Zs", "Zl", "Zp"])
  | "digit" => named? categories "nd"
  | "cntrl" => named? categories "cc"
  | _ => named? categories name

/-- The set of a property that a character has or has not, by a normalized name. -/
def binary? (name : String) : Option CharSet :=
  match name with
  | "alphabetic" | "alpha" => some (.table alphabetic)
  | "lowercase" | "lower" => some (.union (.table lowercaseLetter) (.table otherLowercase))
  | "uppercase" | "upper" => some (.union (.table uppercaseLetter) (.table otherUppercase))
  | "whitespace" | "wspace" | "space" => some (.table whiteSpace)
  | "joincontrol" | "joinc" => some (.table joinControl)
  | _ => Option.none

/-- The set that a Unicode property names: a property alone, a general category or a script. -/
def property? (name : String) : Option CharSet :=
  let name := looseName name
  (binary? name).or ((category? name).or (named? scripts name))

/-- The set of the characters for which a property has a value. -/
def propertyValue? (property value : String) : Option CharSet :=
  match looseName property with
  | "gc" | "generalcategory" => category? (looseName value)
  | "sc" | "script" | "scx" | "scriptextensions" => named? scripts (looseName value)
  | _ => Option.none

end CharSet

end Multidialect
