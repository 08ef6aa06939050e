import Multidialect.Files.Tree
import Multidialect.Sorting
import Multidialect.Template.Basic

/-! # Reading and writing project files

What a run does with files, and what it says when it cannot.

* `FileTree.listFiles`: the files of a directory with given extensions, sorted by name.
* `FileTree.loadTemplates`: those files as templates.
* `FileTree.put`: a file with the directories on the way to it.
* `FileTree.clear`: removes a directory if it is there.
-/

namespace Multidialect

/-- What was to be done with a file or a directory. -/
inductive FileTask where
  | readDirectory
  | readTemplate
  | readBarrel
  | create
  | write
  | remove
  deriving DecidableEq, Repr

/-- What to say of a task that failed. -/
def FileTask.failure : FileTask → String
  | .readDirectory => "failed to read directory"
  | .readTemplate => "failed to read template"
  | .readBarrel => "failed to read barrel"
  | .create => "failed to create"
  | .write => "failed to write"
  | .remove => "failed to remove"

/-- A task that failed, where, and why. -/
structure FileError where
  task : FileTask
  path : Path
  fault : FileFault
  deriving DecidableEq, Repr

/-- The wording of a file error. -/
def FileError.message (e : FileError) : String :=
  let failure := e.task.failure
  let path := e.path
  let fault := e.fault.message
  s!"{failure} '{path}': {fault}"

/-- An answer in which a fault is given as an error of a task. -/
def FileFault.during {α : Type} (task : FileTask) (path : Path) (r : Except FileFault α) :
    Except FileError α :=
  r.mapError (⟨task, path, ·⟩)

/-- The names in their order. -/
def sortNames (names : List String) : List String := sortBy (fun a b => decide (a ≤ b)) names

namespace FileTree

/-- The names of the files among the entries of a directory that have one of the extensions. -/
def matchingNames (extensions : List String) (entries : List (String × Bool)) : List String :=
  (entries.filter fun entry =>
    entry.2 && (fileExtension? entry.1).any extensions.contains).map Prod.fst

/-- The files in a directory that have one of the extensions, sorted by name. -/
def listFiles (t : FileTree) (dir : Path) (extensions : List String) :
    Except FileError (List Path) := do
  let entries ← FileFault.during .readDirectory dir (t.list dir)
  return (sortNames (matchingNames extensions entries)).map dir.child

/-- The template in a file. -/
def readTemplate (t : FileTree) (path : Path) : Except FileError Template := do
  let source ← FileFault.during .readTemplate path (t.read path)
  return .ofFile path (path.fileName?.getD "") source

/-- The templates in a directory, sorted by file name. -/
def loadTemplates (t : FileTree) (dir : Path) (extensions : List String) :
    Except FileError (List Template) := do
  (← t.listFiles dir extensions).mapM t.readTemplate

/-- The tree with a file of given bytes, whose directory is there. -/
def writeBytes (t : FileTree) (path : Path) (content : ByteArray) :
    FileTree × Except FileError Unit :=
  match FileFault.during .write path (t.write path content) with
  | .ok t => (t, .ok ())
  | .error e => (t, .error e)

/-- The tree with a file of given bytes, and with the directories on the way to it. -/
def putBytes (t : FileTree) (path : Path) (content : ByteArray) :
    FileTree × Except FileError Unit :=
  let (t, made) :=
    match path.parent? with
    | some parent =>
      let (t, r) := t.createDirs parent
      (t, FileFault.during .create parent r)
    | none => (t, .ok ())
  match made with
  | .error e => (t, .error e)
  | .ok () => t.writeBytes path content

/-- The tree with a file of a given text, and with the directories on the way to it. Unification
must not unfold it, or it runs it wherever the equations of a loop over files are made. -/
@[irreducible]
def put (t : FileTree) (path : Path) (text : String) : FileTree × Except FileError Unit :=
  t.putBytes path text.toUTF8

/-- The tree without a directory, and whether it was there. -/
def clear (t : FileTree) (path : Path) : Except FileError (FileTree × Bool) :=
  if t.exists? path then
    (FileFault.during .remove path (t.removeDir path)).map (·, true)
  else .ok (t, false)

end FileTree

end Multidialect
