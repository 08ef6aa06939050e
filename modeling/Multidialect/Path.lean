import Multidialect.Text.Basic

/-! # Paths

A path is kept as it was written, because that is how it is shown; what it means is told by its
components. Paths are joined as texts: an absolute path replaces what stands before it.

* `Path.components`: the parts of a path; a `.` counts only at the front of a relative path.
* `Path.join`, `Path.parent?`, `Path.fileName?`: building paths and taking them apart.
* `Path.normalize`: the path without `.`, each `..` folded with the component before it.
-/

namespace Multidialect

open Text

/-- The parts between the occurrences of a character; there is always at least one. -/
def Text.splitOn (sep : Char) : Text → List Text
  | [] => [[]]
  | c :: cs => if c = sep then [] :: splitOn sep cs else (splitOn sep cs).modifyHead (c :: ·)

/-- A file path, as it was written. -/
structure Path where
  text : String
  deriving DecidableEq, Repr

namespace Path

/-- A part of a path. -/
inductive Component where
  | root
  | here
  | up
  | name (s : String)
  deriving DecidableEq, Repr

/-- The characters of a component. -/
def Component.text : Component → String
  | .root => "/"
  | .here => "."
  | .up => ".."
  | .name s => s

instance : ToString Path := ⟨text⟩

/-- Whether a path starts at the root. -/
def isAbsolute (p : Path) : Bool := p.text.toList.head? == some '/'

/-- The component that a part of a path is, if it is one; `first` tells that it is the first part of
a relative path. -/
def component? (first : Bool) (part : Text) : Option Component :=
  if part = [] then none
  else if part = ['.'] then (if first then some .here else none)
  else if part = ['.', '.'] then some .up
  else some (.name (String.ofList part))

/-- The components that the parts of a relative path are. -/
def ofParts : List Text → List Component
  | [] => []
  | part :: rest => (component? true part).toList ++ rest.filterMap (component? false)

/-- The components of a path. -/
def components (p : Path) : List Component :=
  match p.text.toList with
  | '/' :: rest => .root :: (splitOn '/' rest).filterMap (component? false)
  | t => ofParts (splitOn '/' t)

/-- Whether a path ends in a slash, so that it can only lead to a directory. -/
def endsInSlash (p : Path) : Bool := p.text.toList.getLast? == some '/'

/-- Whether a path ends in a slash or in a `.` behind one, so that it can only lead to a
directory. -/
def namesDir (p : Path) : Bool := p.endsInSlash || ['/', '.'].isSuffixOf p.text.toList

/-- The path `q` as seen from `p`. -/
def join (p q : Path) : Path :=
  if q.isAbsolute then q
  else if p.text.toList = [] ∨ p.text.toList.getLast? = some '/' then ⟨p.text ++ q.text⟩
  else ⟨p.text ++ "/" ++ q.text⟩

/-- The path of a file or directory `name` in the directory `p`. -/
def child (p : Path) (name : String) : Path := p.join ⟨name⟩

/-- Drops the parts at the front that are no components from the reversed parts of a path; the last
one in the list is the first part of the path. -/
def dropEmpty (relative : Bool) : List Text → List Text
  | [] => []
  | part :: rest =>
    if (component? (relative && rest.isEmpty) part).isSome then part :: rest
    else dropEmpty relative rest

/-- The path without its last component, if it has one behind the root. -/
def parent? (p : Path) : Option Path :=
  let relative := !p.isAbsolute
  let body := if relative then p.text.toList else p.text.toList.drop 1
  match dropEmpty relative (splitOn '/' body).reverse with
  | [] => none
  | _ :: rest =>
    let parts := Text.join ['/'] (dropEmpty relative rest).reverse
    some ⟨String.ofList (if relative then parts else '/' :: parts)⟩

/-- The last component, if it is a name. -/
def fileName? (p : Path) : Option String :=
  match p.components.getLast? with
  | some (.name s) => some s
  | _ => none

/-- Whether the components of `q` are the first ones of `p`. -/
def startsWith (p q : Path) : Bool := q.components.isPrefixOf p.components

/-- Whether a path behind these components, last one first, can be left by going up. -/
def canPop : List Component → Bool
  | [] => false
  | .root :: _ => false
  | _ :: _ => true

/-- One more component behind normalized ones, last one first: `.` adds nothing, and `..` takes back
the component before it where there is one to take. -/
def pushNormal (stack : List Component) : Component → List Component
  | .here => stack
  | .up => if canPop stack then stack.tail else .up :: stack
  | c => c :: stack

/-- The components without `.`, each `..` folded with the component before it. -/
def normalComponents (p : Path) : List Component := (p.components.foldl pushNormal []).reverse

/-- The path with given components. -/
def ofComponents (cs : List Component) : Path :=
  cs.foldl (fun p c => p.join ⟨c.text⟩) ⟨""⟩

/-- The path without `.`, each `..` folded with the component before it. -/
def normalize (p : Path) : Path := ofComponents p.normalComponents

end Path

/-- The name of a file without what follows its last dot. -/
def fileStem (fileName : String) : String :=
  match splitLast? '.' fileName.toList with
  | some (stem, _) => String.ofList stem
  | none => fileName

/-- What follows the last dot of a file's name, unless the dot is the first character. -/
def fileExtension? (fileName : String) : Option String :=
  match splitLast? '.' fileName.toList with
  | some (_ :: _, extension) => some (String.ofList extension)
  | _ => none

end Multidialect
