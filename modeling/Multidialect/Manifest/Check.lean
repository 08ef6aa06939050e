import Multidialect.Manifest.Basic
import Multidialect.Manifest.Source
import Multidialect.Pattern.Reader

/-! # Checking manifests

A manifest that says what makes no sense is refused, at the first thing that makes none: the
settings of the run, then the dialects, then the replacers, then the directories.

* `Manifest.check`: refuses a manifest, or lets it pass.
* `Manifest.checkLayout`: no directory that is cleared holds templates or extra modules.
-/

namespace Multidialect

open Text

/-- Refuses with an error if a condition holds. -/
def refuseIf (bad : Bool) (error : ManifestError) : Except ManifestError Unit :=
  if bad then .error error else .ok ()

namespace Manifest

/-- Refuses an extension that is not a bare suffix. -/
def checkExtension (s : ManifestSource) (extension : String) : Except ManifestError Unit :=
  let t := extension.toList
  refuseIf (t.isEmpty || t.contains '.' || t.contains '/')
    (s.misconfigured (.extension extension) extension)

/-- Refuses settings of a run that make no sense. -/
def checkGenerator (m : Manifest) (source : ManifestSource) : Except ManifestError Unit := do
  let g := m.generator
  let s := source.push "generator"
  s.checkName g.placeholder "placeholder"
  refuseIf g.extensions.isEmpty (s.misconfigured .noExtensions "extensions")
  g.extensions.forM (checkExtension s)
  refuseIf (g.barrel.toList.isEmpty || g.barrel.toList.contains '/')
    (s.misconfigured (.barrel g.barrel) "barrel")
  let s := source.push "types"
  s.checkName m.types.builder "builder type"
  (m.types.queries ++ m.types.sessions).forM fun name => s.checkName name "type name"

/-- The code of the type parameters that a dialect declares before it is trimmed. -/
def declaredCode (d : Dialect) (o : Overrides) : Text :=
  match o.typeParams with
  | some code => code.toList
  | none => (d.profile.typeParams.map (·.code)).getD []

/-- Refuses overrides of the reference dialect that only a variant can have. -/
def checkReference (m : Manifest) (source : ManifestSource) (d : Dialect) (o : Overrides) :
    Except ManifestError Unit :=
  if d = m.reference then
    match o.variantOnlyFields with
    | field :: _ => .error (.referenceOverride d field (source.span? field))
    | [] => .ok ()
  else .ok ()

/-- Refuses a number of type parameters that is not the number declared. -/
def checkSlots (s : ManifestSource) (d : Dialect) (o : Overrides) : Except ManifestError Unit :=
  match o.typeParamSlots with
  | some slots =>
    let declared := parameterCount (declaredCode d o)
    refuseIf (slots != declared)
      (s.misconfigured (.slots slots d declared) "type_param_slots")
  | none => .ok ()

/-- Refuses the key of an override that cannot name a region. -/
def checkKey (s : ManifestSource) (d : Dialect) (key : String) : Except ManifestError Unit :=
  match KeyFault.find? key.toList with
  | some fault => .error (s.misconfigured (.snippetKey key d fault) key)
  | none => .ok ()

/-- Refuses overrides of a dialect that make no sense. -/
def checkDialect (m : Manifest) (source : ManifestSource) (d : Dialect) (o : Overrides) :
    Except ManifestError Unit := do
  let s := (source.push "dialects").push d.name
  m.checkReference source d o
  o.typePrefix.forM fun word => s.checkName word "type prefix"
  o.modulePrefix.forM fun word =>
    refuseIf (word.toList.isEmpty || word.toList.any isBlank)
      (s.misconfigured (.modulePrefix word) word)
  checkSlots s d o
  o.renames.forM fun entry => do
    s.checkName entry.1 "rename source"
    s.checkName entry.2 "rename target"
  refuseIf (o.unsupported.any (·.any fun name => isBlankText name.toList))
    (s.misconfigured (.blankUnsupported d) "unsupported")
  o.snippets.keys.forM (checkKey s d)

/-- Refuses a replacer that makes no sense. -/
def checkReplacer (m : Manifest) (source : ManifestSource) (r : ReplacerSettings) :
    Except ManifestError Unit := do
  refuseIf (isBlankText r.template.toList) (source.misconfigured .blankTemplate "template")
  refuseIf (Pattern.read? r.pattern).isNone (.invalidPattern r.template (source.span? r.pattern))
  r.dialects.forM fun dialects => do
    refuseIf dialects.isEmpty (source.misconfigured (.noDialects r.template) "dialects")
    refuseIf (dialects.contains m.reference)
      (.referenceOverride m.reference "replacers" (source.span? r.template))

/-- The directory that a dialect's modules go to, without `.` and `..`. -/
def normalOutput (m : Manifest) (d : Dialect) : Path :=
  (m.generator.output.child d.name).normalize

/-- Refuses directories where the output of one dialect would hold templates or extra modules. -/
def checkOutput (m : Manifest) (source : ManifestSource) (d : Dialect) :
    Except ManifestError Unit := do
  let output := m.normalOutput d
  let templates := m.generator.templates
  refuseIf (templates.normalize.startsWith output)
    (source.misconfigured (.templatesInOutput templates d output) "templates")
  m.profiles.forM fun other =>
    other.extras.forM fun extras =>
      refuseIf (extras.normalize.startsWith output)
        (source.misconfigured (.extrasInOutput extras other.dialect d output) "extras")

/-- Refuses directories where clearing an output would delete templates or extra modules. -/
def checkLayout (m : Manifest) (source : ManifestSource) : Except ManifestError Unit :=
  m.profiles.forM fun profile => m.checkOutput source profile.dialect

/-- Refuses a manifest that makes no sense. -/
def check (m : Manifest) (source : ManifestSource) : Except ManifestError Unit := do
  m.checkGenerator source
  m.dialects.forM fun entry => m.checkDialect source entry.1 entry.2
  m.replacers.forM (m.checkReplacer source)
  m.checkLayout source

end Manifest

end Multidialect
