import Multidialect.Toml.Quoted
import Multidialect.Dictionary

/-! # Reading TOML

A document is a sequence of lines, each blank, a key with its value, or a header that says which
table the following keys belong to. Tables grow while the document is read; how a table came about
decides who may still add to it.

* `value?`: a value at the front of a text.
* `Item.put?`, `Item.openTable?`, `Item.openElement?`: what the three kinds of lines do to the
  tables.
* `parse?`: a whole document, or nothing if it is not well formed.
-/

namespace Multidialect.Toml

open Text

/-- How a table came about. -/
inductive Form where
  /-- By a header of its own. -/
  | explicit
  /-- By a header of a table below it. -/
  | implied
  /-- By a dotted key. -/
  | dotted
  deriving DecidableEq, Repr

/-- What a key stands for while a document is read. Only tables still grow, and of the elements of
an array of tables the last one, which stands first. -/
inductive Item where
  | value (v : Value)
  | table (form : Form) (entries : List (String × Item))
  | tables (elements : List (List (String × Item)))

/-- The items of a table that is still growing. -/
abbrev Items := List (String × Item)

namespace Item

/-- The items with one item exchanged, or put at the end. -/
def set (items : Items) (key : String) (item : Item) : Items := Dictionary.insert items key item

/-- The items with `f` applied to the table at a path. Tables on the way are made where they are
missing, in the given form; a table that has a header of its own is closed to dotted keys. -/
def update? (form : Form) (f : Items → Option Items) : List String → Items → Option Items
  | [], items => f items
  | key :: path, items =>
    match items.lookup key with
    | none => do some (set items key (.table form (← update? form f path [])))
    | some (.value _) => none
    | some (.table old entries) =>
      if form = .dotted ∧ old = .explicit then none
      else do some (set items key (.table old (← update? form f path entries)))
    | some (.tables (entries :: closed)) => do
      some (set items key (.tables ((← update? form f path entries) :: closed)))
    | some (.tables []) => none

/-- The items with `f` applied to the table that a header has opened. -/
def within? (f : Items → Option Items) : List String → Items → Option Items
  | [], items => f items
  | key :: path, items =>
    match items.lookup key with
    | some (.table form entries) => do
      some (set items key (.table form (← within? f path entries)))
    | some (.tables (entries :: closed)) => do
      some (set items key (.tables ((← within? f path entries) :: closed)))
    | _ => none

/-- Whether dotted keys made the table at the end of a path. -/
def isDotted : List String → Items → Bool
  | [], _ => true
  | [key], items =>
    match items.lookup key with
    | some (.table form _) => form == .dotted
    | some (.tables _) => false
    | _ => true
  | key :: path, items =>
    match items.lookup key with
    | some (.table _ entries) => isDotted path entries
    | some (.tables (entries :: _)) => isDotted path entries
    | _ => true

/-- The items with a value under a dotted key, if the key is free. -/
def put? (path : List String) (key : String) (v : Value) (items : Items) : Option Items :=
  if isDotted path items then
    update? .dotted
      (fun items => if (items.lookup key).isSome then none else some (items ++ [(key, .value v)]))
      path items
  else none

/-- The items with the table at a path opened by a header. -/
def openTable? (path : List String) (key : String) (items : Items) : Option Items :=
  update? .implied
    (fun items =>
      match items.lookup key with
      | none => some (items ++ [(key, .table .explicit [])])
      | some (.table .implied entries) => some (set items key (.table .explicit entries))
      | _ => none)
    path items

/-- The items with a new element in the array of tables at a path. -/
def openElement? (path : List String) (key : String) (items : Items) : Option Items :=
  update? .implied
    (fun items =>
      match items.lookup key with
      | none => some (items ++ [(key, .tables [[]])])
      | some (.tables elements) => some (set items key (.tables ([] :: elements)))
      | _ => none)
    path items

mutual

/-- The value that an item has become. -/
def finish : Item → Value
  | .value v => v
  | .table _ items => .table (sortEntries (finishItems items))
  | .tables elements => .array (finishElements elements).reverse

/-- The values that items have become. -/
def finishItems : List (String × Item) → Entries
  | [] => []
  | (key, item) :: rest => (key, finish item) :: finishItems rest

/-- The tables that the elements of an array have become. -/
def finishElements : List (List (String × Item)) → List Value
  | [] => []
  | items :: rest => .table (sortEntries (finishItems items)) :: finishElements rest

end

end Item

/-- What follows spaces and tabs. -/
def skipBlanks (t : Text) : Text := t.dropWhile fun c => c == ' ' || c == '\t'

/-- What follows a comment, if there is one, up to the end of its line. -/
def skipComment? : Text → Option Text
  | '#' :: t =>
    let (comment, rest) := (t.takeWhile (· != '\n'), t.dropWhile (· != '\n'))
    let comment :=
      if rest ≠ [] ∧ comment.getLast? = some '\r' then comment.dropLast else comment
    if comment.all isPrintable then some rest else none
  | t => some t

/-- What follows the rest of a line that holds nothing more. -/
def endOfLine? (t : Text) : Option Text := do
  match ← skipComment? (skipBlanks t) with
  | [] => some []
  | '\n' :: rest => some rest
  | '\r' :: '\n' :: rest => some rest
  | _ => none

/-- What follows white space, line breaks and comments. -/
def skipLines? : Nat → Text → Option Text
  | 0, t => some t
  | fuel + 1, t =>
    match skipBlanks t with
    | '\n' :: rest => skipLines? fuel rest
    | '\r' :: '\n' :: rest => skipLines? fuel rest
    | '#' :: rest => do skipLines? fuel (← skipComment? ('#' :: rest))
    | t => some t

/-- A character of a key without quotes. -/
def isBareKeyChar (c : Char) : Bool := c.isAlphanum || c == '_' || c == '-'

/-- The simple key at the front of a text, and what follows it. -/
def simpleKey? (t : Text) : Option (String × Text) :=
  match t.takeWhile isBareKeyChar with
  | [] => (lineString? t).map fun (key, rest) => (String.ofList key, rest)
  | key => some (String.ofList key, t.dropWhile isBareKeyChar)

/-- The dotted key at the front of a text as its path and its last part, and what follows it. -/
def key? : Nat → Text → Option (List String × String × Text)
  | 0, _ => none
  | fuel + 1, t => do
    let (key, rest) ← simpleKey? (skipBlanks t)
    match skipBlanks rest with
    | '.' :: rest => do
      let (path, last, rest) ← key? fuel rest
      some (key :: path, last, rest)
    | rest => some ([], key, rest)

mutual

/-- The value at the front of a text, and what follows it. -/
def value? : Nat → Text → Option (Value × Text)
  | 0, _ => none
  | fuel + 1, t =>
    match t with
    | '[' :: rest => do
      let (elements, rest) ← elements? fuel rest
      some (.array elements, rest)
    | '\x7b' :: rest => do
      let (items, rest) ← pairs? fuel [] rest
      some (.table (sortEntries (Item.finishItems items)), rest)
    | t =>
      if t.head? = some '"' ∨ t.head? = some '\'' then
        (string? t).map fun (s, rest) => (.string (String.ofList s), rest)
      else scalarAt? t

/-- The elements of an array behind its bracket or a comma, and what follows the array. -/
def elements? : Nat → Text → Option (List Value × Text)
  | 0, _ => none
  | fuel + 1, t => do
    match ← skipLines? (t.length + 1) t with
    | ']' :: rest => some ([], rest)
    | t =>
      let (v, rest) ← value? fuel t
      match ← skipLines? (rest.length + 1) rest with
      | ',' :: rest =>
        let (vs, rest) ← elements? fuel rest
        some (v :: vs, rest)
      | ']' :: rest => some ([v], rest)
      | _ => none

/-- The entries of a table in braces behind its brace or a comma, added to those before, and what
follows the table. -/
def pairs? : Nat → Items → Text → Option (Items × Text)
  | 0, _, _ => none
  | fuel + 1, items, t => do
    match ← skipLines? (t.length + 1) t with
    | '\x7d' :: rest => some (items, rest)
    | t =>
      let (path, key, rest) ← key? t.length t
      let rest ← stripStart? ['='] rest
      let (v, rest) ← value? fuel (skipBlanks rest)
      let items ← Item.put? path key v items
      match ← skipLines? (rest.length + 1) rest with
      | ',' :: rest => pairs? fuel items rest
      | '\x7d' :: rest => some (items, rest)
      | _ => none

end

/-- A document while it is read: its tables, and the table that the last header has opened. -/
structure Reading where
  items : Items
  current : List String

/-- The header of a table at the front of a text, behind its brackets. -/
def header? (closing t : Text) : Option (List String × String × Text) := do
  let (path, key, rest) ← key? (t.length + 1) t
  let rest ← endOfLine? (← stripStart? closing rest)
  some (path, key, rest)

/-- The document with one more line read, and what follows the line. -/
def line? (r : Reading) (t : Text) : Option (Reading × Text) :=
  match t with
  | '[' :: '[' :: rest => do
    let (path, key, rest) ← header? [']', ']'] rest
    some (⟨← Item.openElement? path key r.items, path ++ [key]⟩, rest)
  | '[' :: rest => do
    let (path, key, rest) ← header? [']'] rest
    some (⟨← Item.openTable? path key r.items, path ++ [key]⟩, rest)
  | t => do
    let (path, key, rest) ← key? (t.length + 1) t
    let rest ← stripStart? ['='] rest
    let (v, rest) ← value? (rest.length + 1) (skipBlanks rest)
    let rest ← endOfLine? rest
    some (⟨← Item.within? (Item.put? path key v) r.current r.items, r.current⟩, rest)

/-- The document with all lines of a text read. -/
def lines? : Nat → Reading → Text → Option Reading
  | 0, _, _ => none
  | fuel + 1, r, t => do
    match ← skipLines? (t.length + 1) t with
    | [] => some r
    | t =>
      let (r, rest) ← line? r t
      lines? fuel r rest

/-- The entries of a document, sorted by key. A byte order mark in front of it is passed over. -/
def parse? (t : Text) : Option Entries :=
  let t := if t.head? = some '\uFEFF' then t.tail else t
  (lines? (t.length + 1) ⟨[], []⟩ t).map fun r => sortEntries (Item.finishItems r.items)

end Multidialect.Toml
