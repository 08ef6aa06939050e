import Multidialect.Unicode.Classes

/-! # Faults of a template

What can be wrong with a template while one dialect's module is made from it. A fault stands for its
cause; `Fault.message`, `Fault.code` and `Fault.help?` give the wording.
-/

namespace Multidialect

/-- Why a template cannot be rendered for a dialect. Lines are counted from 1. -/
inductive Fault where
  /-- A region is opened and never closed. -/
  | unmatchedStart (key : String) (line : Nat)
  /-- An end marker stands where no region is open. -/
  | unmatchedEnd (key : String) (line : Nat)
  /-- An end marker names another region than the open one. -/
  | mismatchedEnd (opened found : String) (line : Nat)
  /-- A region is opened inside another. -/
  | nestedRegion (outer inner : String) (line : Nat)
  /-- A region's key was used before, on line `first`. -/
  | duplicateRegion (key : String) (line first : Nat)
  /-- A marker without a proper key. -/
  | malformedMarker (line : Nat) (text : String)
  /-- Nothing follows a directive that removes the next line. -/
  | danglingRemove (tag : String) (line : Nat)
  /-- A directive names no dialect. -/
  | emptyTag (line : Nat)
  /-- A directive names a dialect that does not exist. -/
  | unknownTag (tag : String) (line : Nat)
  /-- A replacer refused the text. -/
  | replacer (name message : String)
  /-- A directive or a marker is left in the output. -/
  | residue (dialect marker : String) (line : Nat)
  deriving DecidableEq, Repr

namespace Fault

/-- The wording of a fault of the template `t`. -/
def message (t : String) : Fault → String
  | .unmatchedStart key line => s!"{t}:{line}: snippet '{key}' is opened but never closed"
  | .unmatchedEnd key line => s!"{t}:{line}: `@end {key}` has no matching `@start`"
  | .mismatchedEnd opened found line => s!"{t}:{line}: `@end {found}` closes snippet '{opened}'"
  | .nestedRegion outer inner line =>
    s!"{t}:{line}: snippet '{inner}' is nested inside '{outer}'"
  | .duplicateRegion key line first =>
    s!"{t}:{line}: snippet '{key}' is already defined on line {first}"
  | .malformedMarker line text => s!"{t}:{line}: malformed snippet marker `{text}`"
  | .danglingRemove tag line =>
    s!"{t}:{line}: `{tag}-remove-next-line` is the last line of the template"
  | .emptyTag line => s!"{t}:{line}: directive has no dialect tag"
  | .unknownTag tag line => s!"{t}:{line}: unknown dialect '{tag}' in directive"
  | .replacer name text => s!"{t}: replacer '{name}' failed: {text}"
  | .residue dialect marker line => s!"{t}:{line}: unresolved `{marker}` left in {dialect} output"

/-- The code under which a fault is documented. -/
def code : Fault → String
  | .unmatchedStart .. => "dialectic::snippet::unmatched_start"
  | .unmatchedEnd .. => "dialectic::snippet::unmatched_end"
  | .mismatchedEnd .. => "dialectic::snippet::mismatched_end"
  | .nestedRegion .. => "dialectic::snippet::nested"
  | .duplicateRegion .. => "dialectic::snippet::duplicate"
  | .malformedMarker .. => "dialectic::snippet::malformed"
  | .danglingRemove .. => "dialectic::directive::dangling_remove"
  | .emptyTag .. => "dialectic::directive::empty_tag"
  | .unknownTag .. => "dialectic::directive::unknown_tag"
  | .replacer .. => "dialectic::replacer"
  | .residue .. => "dialectic::residue"

/-- Advice on mending a fault, where there is any. -/
def help? : Fault → Option String
  | .unmatchedStart key _ => some s!"add a matching `// @end {key}` line"
  | .mismatchedEnd opened _ _ => some s!"snippet regions cannot overlap; close '{opened}' first"
  | .nestedRegion .. => some "snippet regions cannot be nested"
  | .duplicateRegion .. => some "each snippet key may appear once per template"
  | .malformedMarker .. =>
    some "markers look like `// @start key` and `// @end key`, with key matching \\w+"
  | .emptyTag .. => some "write the dialect in front, e.g. `// sqlite-insert: ...`"
  | .unknownTag .. => some "directive tags are 'pg', 'mysql' or 'sqlite'"
  | .residue .. =>
    some "a replacer or snippet override introduced directive syntax after directives were resolved"
  | _ => none

end Fault

end Multidialect
