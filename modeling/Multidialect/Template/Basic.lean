import Multidialect.Path

/-! # Templates

A template is one source module, written in the words of the reference dialect. It is known by its
file's name without the extension.
-/

namespace Multidialect

/-- A source module. -/
structure Template where
  name : String
  fileName : String
  path : Path
  source : String
  deriving DecidableEq, Repr

/-- The template in a file. -/
def Template.ofFile (path : Path) (fileName source : String) : Template :=
  ⟨fileStem fileName, fileName, path, source⟩

/-- A template that is in no directory. -/
def Template.ofSource (fileName source : String) : Template := .ofFile ⟨fileName⟩ fileName source

end Multidialect
