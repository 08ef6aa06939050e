import Multidialect.Dialect
import Multidialect.Template.Fault
import Multidialect.Text.Indent

/-! # Line directives

A directive is a comment line that says something about one dialect: `// mysql-insert: code` puts a
line in for it, `// mysql-remove-next-line` takes the following line out.

* `Directive.parse?`: which lines are directives, whatever their tag.
* `Directive.resolve`: the text with the directives carried out for one dialect. A removed line is
  not looked at, so a directive in it has no effect.
-/

namespace Multidialect

open Text

/-- What a directive asks for. -/
inductive DirectiveAction where
  | insert (code : Text)
  | removeNextLine
  deriving DecidableEq, Repr

/-- A directive: whom it concerns, and what it asks for. -/
structure Directive where
  tag : Text
  action : DirectiveAction
  deriving DecidableEq, Repr

/-- What a line says behind `//`, if it is a comment line. -/
def Text.comment? (line : Text) : Option Text :=
  (stripStart? ['/', '/'] (trim line)).map trimStart

namespace Directive

/-- Whether a text can be a tag; the empty text can. -/
def isTag (t : Text) : Bool := t.all isTagChar

/-- The word between the tag and the code of an insertion. -/
def insertWord : Text := "-insert:".toList

/-- The word behind the tag of a removal. -/
def removeWord : Text := "-remove-next-line".toList

/-- The insertion that a comment spells. -/
def insertion? (comment : Text) : Option Directive :=
  match splitOnce? insertWord comment with
  | some (tag, code) => if isTag tag then some ⟨tag, .insert (trim code)⟩ else none
  | none => none

/-- The removal that a comment spells. -/
def removal? (comment : Text) : Option Directive :=
  match stripEnd? removeWord comment with
  | some tag => if isTag tag then some ⟨tag, .removeNextLine⟩ else none
  | none => none

/-- The directive on a line, if the line is one. -/
def parse? (line : Text) : Option Directive :=
  match comment? line with
  | none => none
  | some comment => (insertion? comment).or (removal? comment)

/-- The dialect that a directive on line `n` concerns. -/
def target (d : Directive) (n : Nat) : Except Fault Dialect :=
  if d.tag = [] then .error (.emptyTag n)
  else
    match Dialect.ofTag? (String.ofList d.tag) with
    | some dialect => .ok dialect
    | none => .error (.unknownTag (String.ofList d.tag) n)

/-- The carriage returns and line feeds that end a line. -/
def lineEnding (line : Text) : Text :=
  (line.reverse.takeWhile fun c => c == '\r' || c == '\n').reverse

/-- The line that an insertion on `line` puts in its place. -/
def insertedLine (line code : Text) : Text := indentation line ++ code ++ lineEnding line

/-- The lines from line `n` on with their directives carried out. -/
def resolveFrom (dialect : Dialect) (n : Nat) : List Text → Except Fault Text
  | [] => .ok []
  | line :: rest =>
    match parse? line with
    | none => do
      let tail ← resolveFrom dialect (n + 1) rest
      return line ++ tail
    | some d => do
      let target ← d.target n
      match d.action with
      | .insert code =>
        let tail ← resolveFrom dialect (n + 1) rest
        return (if target = dialect then insertedLine line code else []) ++ tail
      | .removeNextLine =>
        match rest with
        | [] => .error (.danglingRemove (String.ofList d.tag) n)
        | dropped :: rest =>
          if target = dialect then resolveFrom dialect (n + 2) rest
          else resolveFrom dialect (n + 1) (dropped :: rest)

/-- The text with its line directives carried out for a dialect. -/
def resolve (dialect : Dialect) (t : Text) : Except Fault Text :=
  resolveFrom dialect 1 (physicalLines t)

end Directive

end Multidialect
