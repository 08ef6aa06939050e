import Multidialect.Manifest.Check
import Multidialect.Manifest.Decode
import Multidialect.Toml.Reader

/-! # Reading manifests

A manifest is read from the text of a file: the text is a document, the document spells a manifest,
and the manifest makes sense.
-/

namespace Multidialect.Manifest

/-- The manifest in a text. -/
def read (text fileName : String) : Except ManifestError Manifest :=
  match (Toml.parse? text.toList).bind ofDocument? with
  | none => .error .malformed
  | some m => do
    m.check (.ofText text fileName)
    return m

end Multidialect.Manifest
