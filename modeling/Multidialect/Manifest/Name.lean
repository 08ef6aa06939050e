import Multidialect.Text.Basic

/-! # Names in a manifest

Which texts a manifest may use as names of types and as keys of regions.

* `NameFault.find?`: why a text is no identifier, if it is none.
* `KeyFault.find?`: why a text is no key for an override, if it is none.
-/

namespace Multidialect

open Text

/-- Why a text is no identifier. -/
inductive NameFault where
  | empty
  | start
  | rest
  deriving DecidableEq, Repr

namespace NameFault

/-- The wording of a fault. -/
def message : NameFault → String
  | .empty => "name cannot be empty"
  | .start => "name must start with a letter, '_' or '$'"
  | .rest => "name must contain only letters, numbers, '_' and '$'"

/-- A character that an identifier can start with. -/
def canStart (c : Char) : Bool := c.isAlpha || c == '_' || c == '$'

/-- A character that an identifier can go on with. -/
def canFollow (c : Char) : Bool := c.isAlphanum || c == '_' || c == '$'

/-- Why a text is no identifier: ASCII letters, digits, `_` and `$`, no digit in front. -/
def find? : Text → Option NameFault
  | [] => some .empty
  | c :: cs => if !canStart c then some .start else if !cs.all canFollow then some .rest else none

end NameFault

/-- Why a text is no key for the override of a region. -/
inductive KeyFault where
  | emptyTemplate
  | emptyKey
  | characters
  deriving DecidableEq, Repr

namespace KeyFault

/-- The wording of a fault. -/
def message : KeyFault → String
  | .emptyTemplate => "template name before '.' cannot be empty"
  | .emptyKey => "snippet key cannot be empty"
  | .characters => "snippet keys may only contain letters, numbers, and underscores"

/-- The template, if there is one, and the region that a key names: they are parted by the first
dot. -/
def split (key : Text) : Option Text × Text :=
  match splitOnce? ['.'] key with
  | some (template, region) => (some template, region)
  | none => (none, key)

/-- Why a text is no key: a region's key, or a template's name, a dot and a region's key. -/
def find? (key : Text) : Option KeyFault :=
  let (template, region) := split key
  if template = some [] then some .emptyTemplate
  else if region = [] then some .emptyKey
  else if !region.all isTagChar then some .characters
  else none

end KeyFault

end Multidialect
