import Multidialect.Pipeline.Builtin

/-! # Rendering pairs

A run renders each template for each dialect. A pair is gated if the dialect cannot offer the
template; the reference dialect gets the template as it is; every other pair goes through the
pipeline. No pair hears of another, but for what plugins keep.

* `Generator.renderOne`: what comes of one pair.
* `Generator.render`: what comes of all pairs, dialect by dialect.
* `Generator.matrix`: how each template is treated for each dialect.
-/

namespace Multidialect

/-- A manifest and the directory that its paths start from. -/
structure Generator where
  manifest : Manifest
  root : Path
  deriving DecidableEq, Repr

/-- What comes of a pair of a template and a dialect. -/
inductive PairResult where
  | gated
  | rendered (content : Text) (diagnostics : List Diagnostic)
  | failed (message : String)
  deriving DecidableEq, Repr

/-- A pair, and what comes of it. -/
structure RenderedPair where
  template : Template
  dialect : Dialect
  result : PairResult
  deriving DecidableEq, Repr

/-- A module that is ready to be written. -/
structure GeneratedModule where
  template : String
  dialect : Dialect
  path : Path
  content : String
  deriving DecidableEq, Repr

/-- A pair that cannot be rendered, and why. -/
structure PairFailure where
  template : String
  dialect : Dialect
  message : String
  deriving DecidableEq, Repr

/-- A failure on one line. -/
def PairFailure.line (f : PairFailure) : String :=
  let dialect := f.dialect
  let message := f.message
  s!"[{dialect}] {message}"

namespace RenderedPair

/-- The module of a pair. -/
def module? (p : RenderedPair) : Option GeneratedModule :=
  match p.result with
  | .rendered content _ =>
    some ⟨p.template.name, p.dialect, (Path.mk p.dialect.name).child p.template.fileName,
      String.ofList content⟩
  | _ => none

/-- The names of a pair that is gated. -/
def gated? (p : RenderedPair) : Option (String × Dialect) :=
  match p.result with
  | .gated => some (p.template.name, p.dialect)
  | _ => none

/-- The failure of a pair. -/
def failure? (p : RenderedPair) : Option PairFailure :=
  match p.result with
  | .failed message => some ⟨p.template.name, p.dialect, message⟩
  | _ => none

/-- The remarks about a pair. -/
def diagnostics (p : RenderedPair) : List Diagnostic :=
  match p.result with
  | .rendered _ ds => ds
  | _ => []

end RenderedPair

/-- What comes of all pairs, in order. The modules, the gated pairs, the failures and the remarks are
read off this one list. They are what four lists hold that a loop over the dialects and the templates
fills from the back, one pair after another (`Generator.renderWith_eq_foldl`). -/
structure Rendered where
  pairs : List RenderedPair
  deriving DecidableEq, Repr

namespace Rendered

/-- The modules. -/
def modules (r : Rendered) : List GeneratedModule := r.pairs.filterMap RenderedPair.module?

/-- The gated pairs. -/
def gated (r : Rendered) : List (String × Dialect) := r.pairs.filterMap RenderedPair.gated?

/-- The failures. -/
def failures (r : Rendered) : List PairFailure := r.pairs.filterMap RenderedPair.failure?

/-- The remarks. -/
def diagnostics (r : Rendered) : List Diagnostic := r.pairs.flatMap RenderedPair.diagnostics

/-- The number of a dialect's modules. -/
def moduleCount (r : Rendered) (d : Dialect) : Nat :=
  (r.modules.filter (·.dialect == d)).length

/-- The number of a dialect's gated pairs. -/
def gatedCount (r : Rendered) (d : Dialect) : Nat := (r.gated.filter (·.2 == d)).length

end Rendered

/-- How a template is treated for a dialect. -/
inductive Availability where
  | reference
  | generated
  | gated
  deriving DecidableEq, Repr

/-- The name of a treatment. -/
def Availability.name : Availability → String
  | .reference => "reference"
  | .generated => "generated"
  | .gated => "gated"

/-- How a template is treated for each dialect, and the names of its replacers. -/
structure MatrixRow where
  template : String
  dialects : List (Dialect × Availability)
  replacers : List String
  deriving DecidableEq, Repr

namespace Manifest

/-- Whether a dialect can offer a template. -/
def allows (m : Manifest) (template : String) (d : Dialect) : Bool :=
  !(m.profile d).isUnsupported template

end Manifest

namespace Generator

variable {σ : Type}

/-- The replacers of a run. -/
def replacers (g : Generator) : ReplacerRegistry := .ofManifest g.manifest

/-- The passes of a run. -/
def pipeline (g : Generator) : Pipeline := .standard g.replacers

/-- Renders a pair that is not gated: the reference as it is written, a variant by the pipeline. -/
def renderPair (g : Generator) (plugins : List (Plugin σ)) (t : Template)
    (profile reference : Profile) (kept : σ) :
    σ × Except RenderError (Text × List Diagnostic) :=
  if profile.dialect = reference.dialect then (kept, .ok (t.source.toList, []))
  else
    let c : RenderContext := ⟨t, profile, reference, g.manifest⟩
    match g.pipeline.run plugins c ⟨.ofTemplate t, kept⟩ with
    | (s, .ok ()) => (s.kept, .ok (s.draft.text, s.draft.diagnostics))
    | (s, .error e) => (s.kept, .error e)

/-- What comes of one pair. -/
def renderOne (g : Generator) (plugins : List (Plugin σ)) (d : Dialect) (t : Template) (kept : σ) :
    σ × PairResult :=
  if g.manifest.allows t.name d then
    match g.renderPair plugins t (g.manifest.profile d) g.manifest.referenceProfile kept with
    | (kept, .ok (content, diagnostics)) => (kept, .rendered content diagnostics)
    | (kept, .error e) => (kept, .failed (e.message t.name))
  else (kept, .gated)

/-- What comes of pairs, one after another. -/
def renderPairs (g : Generator) (plugins : List (Plugin σ)) :
    List (Dialect × Template) → σ → σ × List RenderedPair
  | [], kept => (kept, [])
  | (d, t) :: rest, kept =>
    let (kept, result) := g.renderOne plugins d t kept
    let (kept, more) := renderPairs g plugins rest kept
    (kept, ⟨t, d, result⟩ :: more)

/-- All pairs of some dialects and templates, dialect by dialect. -/
def pairsOf (dialects : List Dialect) (templates : List Template) : List (Dialect × Template) :=
  dialects.flatMap fun d => templates.map fun t => (d, t)

/-- What comes of all pairs while plugins look on. -/
def renderWith (g : Generator) (plugins : List (Plugin σ)) (templates : List Template)
    (dialects : List Dialect) (kept : σ) : σ × Rendered :=
  let (kept, pairs) := g.renderPairs plugins (pairsOf dialects templates) kept
  (kept, ⟨pairs⟩)

/-- What comes of all pairs. -/
def render (g : Generator) (templates : List Template) (dialects : List Dialect) : Rendered :=
  (g.renderWith [] templates dialects ()).2

/-- How a template is treated for a dialect. -/
def availability (g : Generator) (t : Template) (d : Dialect) : Availability :=
  if !g.manifest.allows t.name d then .gated
  else if d = g.manifest.reference then .reference
  else .generated

/-- How each template is treated for each dialect. -/
def matrix (g : Generator) (templates : List Template) : List MatrixRow :=
  templates.map fun t =>
    ⟨t.name, Dialect.all.map fun d => (d, g.availability t d), g.replacers.names t.name⟩

end Generator

end Multidialect
