import Multidialect.Text.Lines

/-! # Barrels

A barrel is a module that exports what other modules export, one line for each. Lines are only ever
added at its end, because their order is the order of the exports.

* `Barrel.ofText`: the barrel in a file; blank lines are dropped.
* `Barrel.append`: one more module, unless the barrel has it.
-/

namespace Multidialect

open Text

/-- The lines of a barrel. -/
structure Barrel where
  lines : List Text
  deriving DecidableEq, Repr

namespace Barrel

/-- A barrel that exports nothing. -/
def empty : Barrel := ⟨[]⟩

/-- The barrel in a file. -/
def ofText (t : Text) : Barrel := ⟨(Text.lines t).filter (!isBlankText ·)⟩

/-- The line that exports a module. -/
def exportLine (stem : Text) : Text := "export * from './".toList ++ stem ++ ['\'']

/-- Whether a barrel exports a module. -/
def exports (b : Barrel) (stem : Text) : Bool := b.lines.contains (exportLine stem)

/-- The barrel with one more module, unless it has it. -/
def append (b : Barrel) (stem : Text) : Barrel :=
  if b.exports stem then b else ⟨b.lines ++ [exportLine stem]⟩

/-- The barrel with more modules, in order. -/
def appendAll (b : Barrel) (stems : List Text) : Barrel := stems.foldl append b

/-- The text of a barrel. -/
def render (b : Barrel) : Text :=
  let t := unlines b.lines
  if t = [] then [] else t ++ ['\n']

end Barrel

end Multidialect
