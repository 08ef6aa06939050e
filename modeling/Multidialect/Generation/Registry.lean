import Multidialect.Files.Access
import Multidialect.Json
import Multidialect.Sorting

/-! # Planned files

Every file of a run is planned before any is written. Stubs are written first, then modules, extra
modules and barrels, each kind in the order of planning; a stub is written only where there is none.

* `FileRegistry.inOrder`: the files in the order in which they are written.
* `FileRegistry.preview`: what would be written, in that order.
* `FileRegistry.writeAll`: writes them.
* `tsconfigStub`: the text of the stub that makes a directory a project of its own.
-/

namespace Multidialect

/-- The kind of a planned file. -/
inductive Category where
  | config
  | generated
  | extra
  | barrel
  deriving DecidableEq, Repr

namespace Category

/-- The place of a kind in the order of writing. -/
def index : Category → Nat
  | .config => 0
  | .generated => 1
  | .extra => 2
  | .barrel => 3

/-- The name of a kind. -/
def name : Category → String
  | .config => "config"
  | .generated => "generated"
  | .extra => "extra"
  | .barrel => "barrel"

end Category

/-- What becomes of a file that is there already. -/
inductive Overwrite where
  | always
  | ifMissing
  deriving DecidableEq, Repr

/-- What becomes of a file that is there already, by its kind. -/
def Category.overwrite : Category → Overwrite
  | .config => .ifMissing
  | _ => .always

/-- A file to be written. -/
structure PlannedFile where
  path : Path
  content : String
  category : Category
  /-- An exception from the rule of the kind. -/
  exception : Option Overwrite
  deriving DecidableEq, Repr

/-- What is shown of a planned file before it is written. -/
structure PreviewEntry where
  path : Path
  content : String
  category : Category
  deriving DecidableEq, Repr

namespace PlannedFile

/-- What is shown of the file before it is written. -/
def preview (f : PlannedFile) : PreviewEntry := ⟨f.path, f.content, f.category⟩

/-- A file that follows the rule of its kind. -/
def ofCategory (category : Category) (path : Path) (content : String) : PlannedFile :=
  ⟨path, content, category, none⟩

/-- What becomes of a file that is there already. -/
def overwrite (f : PlannedFile) : Overwrite := f.exception.getD f.category.overwrite

/-- Whether a file is left alone. -/
def isKept (f : PlannedFile) (base : Path) (t : FileTree) : Bool :=
  f.overwrite == .ifMissing && t.exists? (base.join f.path)

end PlannedFile

/-- What became of planned files: how many were written, and which were left alone. -/
structure WriteStats where
  written : Nat
  skipped : List Path
  deriving DecidableEq, Repr

namespace WriteStats

/-- Nothing written. -/
def none : WriteStats := ⟨0, []⟩

/-- The number of files. -/
def total (s : WriteStats) : Nat := s.written + s.skipped.length

end WriteStats

/-- Files in the order of planning. -/
structure FileRegistry where
  files : List PlannedFile
  deriving DecidableEq, Repr

namespace FileRegistry

/-- No files. -/
def empty : FileRegistry := ⟨[]⟩

/-- The registry with one more file. -/
def register (r : FileRegistry) (f : PlannedFile) : FileRegistry := ⟨r.files ++ [f]⟩

/-- The files in the order of writing. -/
def inOrder (r : FileRegistry) : List PlannedFile :=
  sortBy (fun a b => decide (a.category.index ≤ b.category.index)) r.files

/-- What would be written. -/
def preview (r : FileRegistry) : List PreviewEntry := r.inOrder.map PlannedFile.preview

/-- Writes files below `base`, up to the first that cannot be written. -/
def writeFiles (base : Path) :
    List PlannedFile → FileTree → FileTree × Except FileError WriteStats
  | [], t => (t, .ok .none)
  | f :: rest, t =>
    if f.isKept base t then
      let (t, r) := writeFiles base rest t
      (t, r.map fun s => { s with skipped := f.path :: s.skipped })
    else
      match t.put (base.join f.path) f.content with
      | (t, .error e) => (t, .error e)
      | (t, .ok ()) =>
        let (t, r) := writeFiles base rest t
        (t, r.map fun s => { s with written := s.written + 1 })

/-- Writes all files below `base`. -/
def writeAll (r : FileRegistry) (base : Path) (t : FileTree) :
    FileTree × Except FileError WriteStats :=
  writeFiles base r.inOrder t

end FileRegistry

/-- A project configuration that extends another one and includes its own directory. -/
def tsconfigStub (parent : String) : String :=
  (Json.object [("extends", .string parent), ("include", .array [.string "."])]).render ++ "\n"

/-- The stub as a planned file. -/
def PlannedFile.stub (path : Path) (parent : String) (category : Category) : PlannedFile :=
  ⟨path, tsconfigStub parent, category, some .ifMissing⟩

end Multidialect
