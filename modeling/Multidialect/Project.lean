import Multidialect.Generation.Generate
import Multidialect.Manifest.Read

/-! # Projects

A project is a manifest in a file; the paths that it names start from the file's directory.

* `Project.read`: the project of a manifest's file.
-/

namespace Multidialect

/-- A manifest with the file that it was read from. -/
structure Project where
  path : Path
  root : Path
  content : String
  manifest : Manifest
  deriving Repr

namespace Project

/-- The directory that the paths of a manifest's file start from. -/
def rootOf (path : Path) : Path :=
  match path.parent? with
  | some parent => if parent.text = "" then ⟨"."⟩ else parent
  | none => ⟨"."⟩

/-- The project of a manifest's file. -/
def read (path : Path) (t : FileTree) : Except ManifestError Project :=
  match t.read path with
  | .error _ => .error (.unreadable path)
  | .ok content => do
    let manifest ← Manifest.read content path.text
    return ⟨path, rootOf path, content, manifest⟩

/-- A path of the manifest as seen from where the manifest's file is seen from. -/
def resolve (p : Project) (path : Path) : Path := p.root.join path

/-- What generates the modules of a project. -/
def generator (p : Project) : Generator := ⟨p.manifest, p.root⟩

end Project

end Multidialect
