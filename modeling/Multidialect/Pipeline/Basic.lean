import Multidialect.Diagnostic
import Multidialect.Manifest.Basic
import Multidialect.Template.Basic
import Multidialect.Template.Fault

/-! # The rendering pipeline

A module is made from a template by passes that run in the order of their stages, each changing the
text. Plugins look on: each is told before and after every pass, and may change the text or stop the
rendering.

* `Action`: something that is done to a state and may fail; `Action.inOrder` stops at the first
  failure and keeps the state as it is then.
* `Pipeline.addPass`: a pass takes its place behind all passes of its stage and of earlier ones.
* `Pipeline.run`: every hook and every pass, in order.
-/

namespace Multidialect

/-- When a pass runs. -/
inductive Stage where
  /-- The template as it is written. -/
  | replace
  | directives
  | typeParams
  | identifiers
  /-- Regions are filled behind all renaming, so that overrides are taken as they are. -/
  | snippets
  | verify
  deriving DecidableEq, Repr

namespace Stage

/-- The stages in their order. -/
def all : List Stage := [.replace, .directives, .typeParams, .identifiers, .snippets, .verify]

/-- The place of a stage. -/
def index : Stage → Nat
  | .replace => 0
  | .directives => 1
  | .typeParams => 2
  | .identifiers => 3
  | .snippets => 4
  | .verify => 5

/-- The name of a stage. -/
def name : Stage → String
  | .replace => "replace"
  | .directives => "directives"
  | .typeParams => "type-params"
  | .identifiers => "identifiers"
  | .snippets => "snippets"
  | .verify => "verify"

end Stage

/-- Why a module cannot be rendered: the template is at fault, or something else is. -/
inductive RenderError where
  | fault (f : Fault)
  | other (message : String)
  deriving DecidableEq, Repr

/-- The wording of an error about a template. -/
def RenderError.message (template : String) : RenderError → String
  | .fault f => f.message template
  | .other message => s!"{template}: {message}"

/-- What a rendering starts from: a template, a dialect's profile, that of the reference, and the
settings. Passes and plugins read it and do not change it: what they change is the draft. -/
structure RenderContext where
  template : Template
  profile : Profile
  reference : Profile
  manifest : Manifest
  deriving Repr

namespace RenderContext

/-- The dialect that is rendered. -/
def dialect (c : RenderContext) : Dialect := c.profile.dialect

/-- The place that a pass's remarks are about. -/
def location (c : RenderContext) : String := c.template.name ++ "." ++ c.dialect.name

end RenderContext

/-- A module while it is rendered. -/
structure Draft where
  text : Text
  diagnostics : List Diagnostic
  deriving DecidableEq, Repr

namespace Draft

/-- The draft that a rendering starts with. -/
def ofTemplate (t : Template) : Draft := ⟨t.source.toList, []⟩

/-- The draft with a remark about the pair that is rendered. -/
def addInfo (d : Draft) (c : RenderContext) (pass message : String) : Draft :=
  { d with diagnostics := d.diagnostics ++ [⟨.info, pass, message, some c.location⟩] }

end Draft

/-- Something that is done to a state and may fail. -/
abbrev Action (σ : Type) := σ → σ × Except RenderError Unit

namespace Action

variable {σ : Type}

/-- Does one thing and, unless it fails, another. -/
def andThen (a b : Action σ) : Action σ := fun s =>
  match a s with
  | (s, .ok ()) => b s
  | (s, .error e) => (s, .error e)

/-- Does one thing after another, up to the first that fails. -/
def inOrder : List (Action σ) → Action σ
  | [] => fun s => (s, .ok ())
  | a :: rest => a.andThen (inOrder rest)

end Action

/-- A step of rendering. -/
structure Pass where
  name : String
  description : String
  stage : Stage
  run : RenderContext → Action Draft

/-- A pass that changes the text, unless the template is at fault. -/
def Pass.ofText (name description : String) (stage : Stage)
    (change : RenderContext → Text → Except Fault Text) : Pass where
  name := name
  description := description
  stage := stage
  run c d :=
    match change c d.text with
    | .ok t => ({ d with text := t }, .ok ())
    | .error f => (d, .error (.fault f))

/-- A draft together with what the plugins keep. -/
structure Attended (σ : Type) where
  draft : Draft
  kept : σ

/-- An onlooker, told the name of every pass before and after it runs. -/
structure Plugin (σ : Type) where
  before : String → RenderContext → Action (Attended σ)
  after : String → RenderContext → Action (Attended σ)

/-- The passes of a rendering, in the order in which they run. -/
structure Pipeline where
  passes : List Pass

namespace Pipeline

variable {σ : Type}

/-- No passes. -/
def empty : Pipeline := ⟨[]⟩

/-- The passes with one more, in front of the first pass of a later stage. -/
def insertByStage (p : Pass) : List Pass → List Pass
  | [] => [p]
  | q :: rest => if p.stage.index < q.stage.index then p :: q :: rest else q :: insertByStage p rest

/-- The pipeline with one more pass. -/
def addPass (pipeline : Pipeline) (p : Pass) : Pipeline := ⟨insertByStage p pipeline.passes⟩

/-- The pipeline with more passes, added in order. -/
def addPasses (pipeline : Pipeline) (ps : List Pass) : Pipeline := ps.foldl addPass pipeline

/-- A pass as an action on an attended draft. -/
def attend (p : Pass) (c : RenderContext) : Action (Attended σ) := fun s =>
  let (draft, result) := p.run c s.draft
  ({ s with draft }, result)

/-- What is done for one pass. -/
def passActions (plugins : List (Plugin σ)) (c : RenderContext) (p : Pass) :
    List (Action (Attended σ)) :=
  plugins.map (·.before p.name c) ++ attend p c :: plugins.map (·.after p.name c)

/-- All that is done for a pair. -/
def actions (pipeline : Pipeline) (plugins : List (Plugin σ)) (c : RenderContext) :
    List (Action (Attended σ)) :=
  pipeline.passes.flatMap (passActions plugins c)

/-- Renders a pair. -/
def run (pipeline : Pipeline) (plugins : List (Plugin σ)) (c : RenderContext) :
    Action (Attended σ) :=
  Action.inOrder (pipeline.actions plugins c)

end Pipeline

end Multidialect
