import Multidialect.Files.Tree
import Multidialect.Sorting
import Multidialect.Text.Utf8

/-! # Listings

All files below a directory, as paths with their contents. A directory that holds nothing is listed
too, since no file tells of it.

* `FileTree.listing`: the files below a directory.
-/

namespace Multidialect

/-- The path without `./` in front. -/
def Path.withoutHere (p : Path) : Path :=
  match p.text.toList with
  | '.' :: '/' :: rest => ⟨String.ofList rest⟩
  | _ => p

namespace FileTree

/-- Whether nothing stands in a directory. -/
def isBare (t : FileTree) (l : Location) : Bool :=
  !t.entries.any fun entry => entry.1 ≠ [] ∧ entry.1.dropLast = l

/-- What there is to list of an entry below the directory `dir` at `l`. The current directory is
never listed. -/
def listed? (t : FileTree) (dir : Path) (l : Location) (entry : Location × FileEntry) :
    Option (Path × Text) :=
  match l.isPrefixOf? entry.1 with
  | none => none
  | some names =>
    let path := (names.foldl Path.child dir).withoutHere
    match entry.2 with
    | .file content => some (path, Text.ofUtf8 content)
    | .directory =>
      if entry.1 ≠ t.current && t.isBare entry.1 then some (⟨path.text ++ "/"⟩, []) else none

/-- The files below a directory, sorted by path. -/
def listing (t : FileTree) (dir : Path) : List (Path × Text) :=
  match t.entry dir with
  | .ok (l, .directory) =>
    sortBy (fun a b => decide (a.1.text ≤ b.1.text)) (t.entries.filterMap (t.listed? dir l))
  | _ => []

end FileTree

end Multidialect
