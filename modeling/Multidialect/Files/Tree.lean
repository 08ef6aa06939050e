import Multidialect.Path

/-! # File trees

The files and directories that a run sees, as a value: what stands at each location, and the
directory that relative paths start from. There are no links, so a path leads to a location by its
components alone, as long as what it passes through are directories.

* `FileTree.locate`: the location that a path leads to.
* `FileTree.read`, `FileTree.list`, `FileTree.exists?`: looking.
* `FileTree.write`, `FileTree.createDirs`, `FileTree.removeDir`: changing; a change that fails
  leaves the tree as it is, but for the directories that were made on the way.
-/

namespace Multidialect

/-- The names on the way from the root to a file or a directory. -/
abbrev Location := List String

/-- What stands at a location. -/
inductive FileEntry where
  | file (content : ByteArray)
  | directory

instance : DecidableEq FileEntry
  | .file a, .file b =>
    match ByteArray.instDecidableEq a b with
    | isTrue h => isTrue (congrArg FileEntry.file h)
    | isFalse h => isFalse fun he => h (FileEntry.file.inj he)
  | .file _, .directory => isFalse nofun
  | .directory, .file _ => isFalse nofun
  | .directory, .directory => isTrue rfl

/-- Why a file or a directory cannot be used. -/
inductive FileFault where
  | notFound
  | alreadyExists
  | notDirectory
  | isDirectory
  | notText
  deriving DecidableEq, Repr

/-- The wording of a fault. -/
def FileFault.message : FileFault → String
  | .notFound => "No such file or directory (os error 2)"
  | .alreadyExists => "File exists (os error 17)"
  | .notDirectory => "Not a directory (os error 20)"
  | .isDirectory => "Is a directory (os error 21)"
  | .notText => "stream did not contain valid UTF-8"

/-- Files and directories. -/
structure FileTree where
  entries : List (Location × FileEntry)
  current : Location

namespace FileTree

/-- A tree that holds nothing but an empty directory, the current one. -/
def empty : FileTree := ⟨[([], .directory), (["work"], .directory)], ["work"]⟩

/-- What stands at a location. -/
def get? (t : FileTree) (l : Location) : Option FileEntry := t.entries.lookup l

/-- Whether a directory stands at a location. -/
def isDirAt (t : FileTree) (l : Location) : Bool :=
  match t.get? l with
  | some .directory => true
  | _ => false

/-- The tree with an entry at a location. -/
def set (t : FileTree) (l : Location) (e : FileEntry) : FileTree :=
  { t with entries := setEntry l e t.entries }
where
  setEntry (l : Location) (e : FileEntry) :
      List (Location × FileEntry) → List (Location × FileEntry)
    | [] => [(l, e)]
    | (k, old) :: rest => if k = l then (l, e) :: rest else (k, old) :: setEntry l e rest

/-- The tree without what stands at a location and below it. -/
def removeBelow (t : FileTree) (l : Location) : FileTree :=
  { t with entries := t.entries.filter fun entry => !l.isPrefixOf entry.1 }

/-- Where a component leads to from a directory. -/
def step (l : Location) : Path.Component → Location
  | .root => []
  | .here => l
  | .up => l.dropLast
  | .name s => l ++ [s]

/-- The location that components lead to; all but the last must lead to directories. -/
def walk (t : FileTree) (l : Location) : List Path.Component → Except FileFault Location
  | [] => .ok l
  | c :: cs =>
    match t.get? l with
    | some .directory => walk t (step l c) cs
    | some (.file _) => .error .notDirectory
    | none => .error .notFound

/-- The location that a path leads to. -/
def locate (t : FileTree) (p : Path) : Except FileFault Location :=
  if p.text = "" then .error .notFound else walk t t.current p.components

/-- What stands where a path leads to. -/
def entry (t : FileTree) (p : Path) : Except FileFault (Location × FileEntry) := do
  let l ← t.locate p
  match t.get? l with
  | some .directory => .ok (l, .directory)
  | some (.file content) =>
    if p.namesDir then .error .notDirectory else .ok (l, .file content)
  | none => .error .notFound

/-- Whether a path leads to anything. -/
def exists? (t : FileTree) (p : Path) : Bool := (t.entry p).toOption.isSome

/-- Whether a path leads to a directory. -/
def isDir (t : FileTree) (p : Path) : Bool :=
  match t.entry p with
  | .ok (_, .directory) => true
  | _ => false

/-- The content of the file that a path leads to. -/
def readBytes (t : FileTree) (p : Path) : Except FileFault ByteArray := do
  match ← t.entry p with
  | (_, .file content) => .ok content
  | (_, .directory) => .error .isDirectory

/-- The text of the file that a path leads to. -/
def read (t : FileTree) (p : Path) : Except FileFault String := do
  let content ← t.readBytes p
  match String.fromUTF8? content with
  | some s => .ok s
  | none => .error .notText

/-- The name of an entry in a directory, and whether it is a file. -/
def childOf? (l : Location) (entry : Location × FileEntry) : Option (String × Bool) :=
  match entry with
  | (k, e) =>
    if k ≠ [] ∧ k.dropLast = l then
      k.getLast?.map fun name =>
        (name,
          match e with
          | .file _ => true
          | .directory => false)
    else none

/-- What stands in the directory that a path leads to: names, and whether they are files. -/
def list (t : FileTree) (p : Path) : Except FileFault (List (String × Bool)) := do
  match ← t.entry p with
  | (l, .directory) => .ok (t.entries.filterMap (childOf? l))
  | (_, .file _) => .error .notDirectory

/-- The tree with one more directory; there must be nothing in its place. -/
def createDirAt (t : FileTree) (cs : List Path.Component) : Except FileFault FileTree := do
  let l ← t.walk t.current cs
  match t.get? l with
  | some _ => .error .alreadyExists
  | none => .ok (t.set l .directory)

/-- Whether components lead to a directory. -/
def leadsToDir (t : FileTree) (cs : List Path.Component) : Bool :=
  match t.walk t.current cs with
  | .ok l => t.isDirAt l
  | .error _ => false

/-- The tree with a directory made unless it is there, given as components, last one first, and with
the directories on the way to it. -/
def createDirsAt (t : FileTree) : List Path.Component → FileTree × Except FileFault Unit
  | [] => (t, .ok ())
  | c :: rest =>
    let cs := (c :: rest).reverse
    match t.createDirAt cs with
    | .ok t => (t, .ok ())
    | .error .notFound =>
      match createDirsAt t rest with
      | (t, .error e) => (t, .error e)
      | (t, .ok ()) =>
        match t.createDirAt cs with
        | .ok t => (t, .ok ())
        | .error e => (t, if t.leadsToDir cs then .ok () else .error e)
    | .error e => (t, if t.leadsToDir cs then .ok () else .error e)

/-- The tree with the directory of a path, and those on the way to it, made unless they are
there. -/
def createDirs (t : FileTree) (p : Path) : FileTree × Except FileFault Unit :=
  t.createDirsAt p.components.reverse

/-- The tree with a file of a given content; its directory must be there. -/
def write (t : FileTree) (p : Path) (content : ByteArray) : Except FileFault FileTree := do
  let l ← t.locate p
  match t.get? l with
  | some .directory => .error .isDirectory
  | some (.file _) => if p.namesDir then .error .notDirectory else .ok (t.set l (.file content))
  | none =>
    if p.endsInSlash then .error .isDirectory
    else if p.namesDir then .error .notFound
    else .ok (t.set l (.file content))

/-- The tree without the directory that a path leads to, and all in it. -/
def removeDir (t : FileTree) (p : Path) : Except FileFault FileTree := do
  match ← t.entry p with
  | (l, .directory) => .ok (t.removeBelow l)
  | (_, .file _) => .error .notDirectory

/-- The tree without the file that a path leads to. -/
def removeFile (t : FileTree) (p : Path) : Except FileFault FileTree := do
  match ← t.entry p with
  | (l, .file _) => .ok (t.removeBelow l)
  | (_, .directory) => .error .isDirectory

/-! ## Lemmas -/

theorem lookup_setEntry (l k : Location) (e : FileEntry) (es : List (Location × FileEntry)) :
    (set.setEntry l e es).lookup k = if k = l then some e else es.lookup k := by
  induction es with
  | nil =>
    by_cases h : k = l
    · simp [set.setEntry, h]
    · simp [set.setEntry, List.lookup_cons, h, beq_eq_false_iff_ne.2 h]
  | cons entry rest ih =>
    obtain ⟨k', e'⟩ := entry
    by_cases h' : k' = l
    · subst h'
      by_cases h : k = k'
      · simp [set.setEntry, h]
      · simp [set.setEntry, List.lookup_cons, h, beq_eq_false_iff_ne.2 h]
    · by_cases h : k = k'
      · simp [set.setEntry, h, h']
      · simp [set.setEntry, List.lookup_cons, h', beq_eq_false_iff_ne.2 h, ih]

/-- **What an entry does to a tree**: it stands at its location, and nothing else changes. -/
theorem get?_set (t : FileTree) (l k : Location) (e : FileEntry) :
    (t.set l e).get? k = if k = l then some e else t.get? k := lookup_setEntry l k e t.entries

end FileTree

end Multidialect
