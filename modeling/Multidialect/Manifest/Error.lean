import Multidialect.Dialect
import Multidialect.Manifest.Name
import Multidialect.Manifest.Span
import Multidialect.Path

/-! # What is wrong with a manifest

The reasons for which a manifest is refused, and their wording.

* `Misconfiguration`: settings that make no sense.
* `ManifestError`: all reasons, with the places that they point at.
-/

namespace Multidialect

/-- A setting that makes no sense. -/
inductive Misconfiguration where
  | noExtensions
  | extension (given : String)
  | barrel (given : String)
  | modulePrefix (given : String)
  | slots (given : Nat) (dialect : Dialect) (declared : Nat)
  | blankUnsupported (dialect : Dialect)
  | snippetKey (key : String) (dialect : Dialect) (fault : KeyFault)
  | blankTemplate
  | noDialects (template : String)
  /-- The templates lie in a directory that is cleared. -/
  | templatesInOutput (templates : Path) (dialect : Dialect) (output : Path)
  /-- Extra modules lie in a directory that is cleared. -/
  | extrasInOutput (extras : Path) (owner dialect : Dialect) (output : Path)
  /-- Anything else, in words. -/
  | stated (message : String)
  deriving DecidableEq, Repr

/-- The wording of a misconfiguration. -/
def Misconfiguration.message : Misconfiguration → String
  | .noExtensions => "at least one template extension is required"
  | .extension given => s!"extension '{given}' must be a bare suffix without a dot"
  | .barrel given => s!"barrel '{given}' must be a plain file name"
  | .modulePrefix given => s!"module prefix '{given}' must be a non-empty word"
  | .slots given dialect declared =>
    s!"type_param_slots = {given} but {dialect} declares {declared} parameter(s)"
  | .blankUnsupported dialect => s!"unsupported list for {dialect} contains an empty name"
  | .snippetKey key dialect fault =>
    let reason := fault.message
    s!"invalid snippet key '{key}' in {dialect}: {reason}"
  | .blankTemplate => "replacer template cannot be empty"
  | .noDialects template =>
    s!"replacer for '{template}' lists no dialects; omit the key to target every variant"
  | .templatesInOutput templates dialect output =>
    s!"templates directory '{templates}' lies inside the {dialect} output directory '{output}'"
  | .extrasInOutput extras owner dialect output =>
    s!"extras directory '{extras}' for {owner} lies inside the {dialect} output directory " ++
    s!"'{output}'"
  | .stated message => message

/-- Why a manifest is refused. -/
inductive ManifestError where
  /-- The file cannot be read. -/
  | unreadable (path : Path)
  /-- The text is no document of the expected form. -/
  | malformed
  | misconfigured (what : Misconfiguration) (span : Option Span)
  | invalidName (name context : String) (fault : NameFault) (span : Option Span)
  | invalidPattern (template : String) (span : Option Span)
  /-- A setting of a variant is given to the reference dialect. -/
  | referenceOverride (dialect : Dialect) (field : String) (span : Option Span)
  deriving DecidableEq, Repr

namespace ManifestError

/-- The wording of an error. -/
def message : ManifestError → String
  | .unreadable path => s!"failed to read '{path}'"
  | .malformed => "failed to parse dialectic.toml"
  | .misconfigured what _ => what.message
  | .invalidName name context _ _ => s!"invalid {context} '{name}'"
  | .invalidPattern template _ => s!"invalid replacer pattern for template '{template}'"
  | .referenceOverride dialect field _ =>
    s!"'{field}' has no effect on the reference dialect '{dialect}'"

/-- The code under which an error is documented. -/
def code? : ManifestError → Option String
  | .unreadable _ => none
  | .malformed => some "dialectic::parse_error"
  | .misconfigured .. => some "dialectic::validation_error"
  | .invalidName .. => some "dialectic::invalid_identifier"
  | .invalidPattern .. => some "dialectic::invalid_pattern"
  | .referenceOverride .. => some "dialectic::reference_override"

/-- Advice on mending an error. -/
def help? : ManifestError → Option String
  | .unreadable _ => some "create a dialectic.toml next to your templates, or pass --config"
  | .malformed => none
  | .misconfigured .. => none
  | .invalidName _ _ fault _ =>
    let reason := fault.message
    some
      s!"{reason}. Use only letters, numbers, and underscores, starting with a letter, '_' or '$'."
  | .invalidPattern .. =>
    some "patterns use the regex crate syntax; look-around and backreferences are not supported"
  | .referenceOverride .. =>
    some "the reference dialect is emitted verbatim; move this setting to a variant dialect"

/-- What an error says at the place that it points at. -/
def label? : ManifestError → Option (String × Span)
  | .unreadable _ => none
  | .malformed => none
  | .misconfigured what span => span.map (what.message, ·)
  | .invalidName _ _ _ span => span.map ("invalid identifier", ·)
  | .invalidPattern _ span => span.map ("does not compile", ·)
  | .referenceOverride _ _ span => span.map ("ignored for the reference dialect", ·)

end ManifestError

end Multidialect
