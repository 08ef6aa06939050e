import Multidialect.Command.Run

/-! # The program

Takes over the part of the disk that a command is about, answers the command, and brings the disk in
line with the files as they are then.
-/

namespace Multidialect.Disk

/-- The absolute path of a location. -/
def absolute (l : Location) : String := "/" ++ String.intercalate "/" l

/-- What stands at a location of the disk. -/
def entry? (l : Location) : IO (Option FileEntry) := do
  let place := (← IO.currentDir) / absolute l
  if ← place.isDir then return some .directory
  else if ← place.pathExists then return some (.file (← IO.FS.readBinFile place))
  else return none

/-- The tree with what stands at a location of the disk. -/
def load (t : FileTree) (l : Location) : IO FileTree := do
  match ← entry? l with
  | some e => return t.set l e
  | none => return t

/-- The tree with what stands at a location of the disk and below it. -/
partial def loadBelow (t : FileTree) (l : Location) : IO FileTree := do
  match ← entry? l with
  | none => return t
  | some (.file content) => return t.set l (.file content)
  | some .directory =>
    let entries ← ((← IO.currentDir) / absolute l).readDir
    entries.foldlM (fun t e => loadBelow t (l ++ [e.fileName])) (t.set l .directory)

/-- The locations that a path leads through, the last one first. -/
def way (current : Location) (p : Path) : Location × List Location :=
  p.components.foldl (fun (l, passed) c => (FileTree.step l c, l :: passed)) (current, [])

/-- The tree with what stands on the way to where a path leads to, and there. -/
def loadPath (t : FileTree) (p : Path) : IO FileTree := do
  let (last, passed) := way t.current p
  (last :: passed).foldlM load t

/-- The tree with what stands on the way to where a path leads to, and all that is there. -/
def loadAll (t : FileTree) (p : Path) : IO FileTree := do
  let (last, passed) := way t.current p
  loadBelow (← passed.foldlM load t) last

/-- The tree that holds the current directory and nothing in it. -/
def start : IO FileTree := do
  let names := (Text.splitOn '/' (← IO.currentDir).toString.toList).filter (· ≠ [])
  let current := names.map String.ofList
  (List.range (current.length + 1)).foldlM (fun t n => load t (current.take n)) ⟨[], current⟩

/-- The tree that a command line is about. -/
def loadFor (words : List String) : IO FileTree := do
  let t ← start
  match Request.read words with
  | .ok ⟨_, .project config job⟩ =>
    let t ← loadPath t config
    match Project.read config t with
    | .ok p => (job.reach p).foldlM loadAll t
    | .error _ => return t
  | _ => return t

/-- Removes what stands at a location of the disk. -/
def remove (entry : Location × FileEntry) : IO Unit := do
  let place := (← IO.currentDir) / absolute entry.1
  match entry.2 with
  | .directory => IO.FS.removeDir place
  | .file _ => IO.FS.removeFile place

/-- Puts something at a location of the disk. -/
def put (entry : Location × FileEntry) : IO Unit := do
  let place := (← IO.currentDir) / absolute entry.1
  match entry.2 with
  | .directory => IO.FS.createDir place
  | .file content => IO.FS.writeBinFile place content

/-- Brings the disk from one tree to another: what is inside a directory goes before it and comes
behind it. -/
def store (old new : FileTree) : IO Unit := do
  let shallowFirst (es : List (Location × FileEntry)) :=
    sortBy (fun a b => decide (a.1.length ≤ b.1.length)) es
  let gone := old.entries.filter fun entry => (new.get? entry.1).isNone
  let come := new.entries.filter fun entry => old.get? entry.1 ≠ some entry.2
  (shallowFirst gone).reverse.forM remove
  (shallowFirst come).forM put

end Multidialect.Disk

open Multidialect in
/-- Answers the words behind the program's name. -/
def main (words : List String) : IO UInt32 := do
  let old ← Disk.loadFor words
  let (new, answer) := CommandLine.run words old
  Disk.store old new
  IO.print answer.output
  IO.eprint answer.errors
  return answer.code.toUInt32
