import Multidialect.Generation.Generate

/-! # Requests

What the words behind the program's name ask for. An option's value is the rest of its word or the
word that follows; a word that starts with `-` is never a value of its own.

* `Settings.flag`, `Settings.value`: what an option says, and which options may be repeated.
* `readOptions`: the options in front of the first word that is none.
* `Request.read`: the request that words spell.
-/

namespace Multidialect

open Text

/-- A shell that can complete commands. -/
inductive Shell where
  | bash
  | elvish
  | fish
  | powershell
  | zsh
  deriving DecidableEq, Repr

namespace Shell

/-- The shells. -/
def all : List Shell := [.bash, .elvish, .fish, .powershell, .zsh]

/-- The name of a shell. -/
def name : Shell → String
  | .bash => "bash"
  | .elvish => "elvish"
  | .fish => "fish"
  | .powershell => "powershell"
  | .zsh => "zsh"

end Shell

/-- An option. -/
inductive Switch where
  | verbose
  | help
  | version
  | config
  | noRemove
  | dryRun
  | dialect
  | snapshotDir
  | json
  deriving DecidableEq, Repr

namespace Switch

/-- The long name of an option, written behind `--`. -/
def long : Switch → String
  | .verbose => "verbose"
  | .help => "help"
  | .version => "version"
  | .config => "config"
  | .noRemove => "no-remove"
  | .dryRun => "dry-run"
  | .dialect => "dialect"
  | .snapshotDir => "snapshot-dir"
  | .json => "json"

/-- The short name of an option, written behind `-`. -/
def short? : Switch → Option Char
  | .verbose => some 'v'
  | .help => some 'h'
  | .version => some 'V'
  | .config => some 'c'
  | .dialect => some 'd'
  | _ => none

/-- Whether an option has a value. -/
def takesValue : Switch → Bool
  | .config => true
  | .dialect => true
  | .snapshotDir => true
  | _ => false

end Switch

/-- The name of what is to be done. -/
inductive CommandName where
  | generate
  | check
  | clean
  | list
  | completions
  deriving DecidableEq, Repr

namespace CommandName

/-- The commands. -/
def all : List CommandName := [.generate, .check, .clean, .list, .completions]

/-- A command as it is written. -/
def name : CommandName → String
  | .generate => "generate"
  | .check => "check"
  | .clean => "clean"
  | .list => "list"
  | .completions => "completions"

/-- What a command does. -/
def description : CommandName → String
  | .generate => "Generate every dialect from the reference templates"
  | .check => "Render every template in memory and report problems"
  | .clean => "Remove generated dialect directories"
  | .list => "Show which templates are generated for which dialect"
  | .completions => "Generate shell completions"

/-- The options of a command. -/
def switches : CommandName → List Switch
  | .generate => [.config, .noRemove, .dryRun, .dialect, .snapshotDir, .verbose, .help]
  | .check => [.config, .verbose, .help]
  | .clean => [.config, .dialect, .dryRun, .verbose, .help]
  | .list => [.config, .json, .verbose, .help]
  | .completions => [.verbose, .help]

/-- The command of a name. -/
def ofName? (word : String) : Option CommandName := all.find? (·.name == word)

end CommandName

/-- Why words spell no request. -/
inductive UsageError where
  | noCommand
  | noShell
  | unexpected (word : String)
  | unknownOption (word : String)
  | unknownDialect (word : String)
  | unknownShell (word : String)
  | missingValue (option : Switch)
  | needlessValue (option : Switch)
  | repeated (option : Switch)
  deriving DecidableEq, Repr

/-- The wording of an error. -/
def UsageError.message : UsageError → String
  | .noCommand => "a command is required"
  | .noShell => "the name of a shell is required"
  | .unexpected word => s!"unexpected argument '{word}'"
  | .unknownOption word => s!"unknown option '{word}'"
  | .unknownDialect word => Dialect.unknownMessage word
  | .unknownShell word => s!"unknown shell '{word}'"
  | .missingValue option => s!"a value is required for '--" ++ option.long ++ "'"
  | .needlessValue option => s!"no value is allowed for '--" ++ option.long ++ "'"
  | .repeated option => "'--" ++ option.long ++ "' cannot be used more than once"

/-- Why words are not read to their end: someone asks what can be asked for, or they make no
sense. -/
inductive Halt where
  | help
  | version
  | misuse (e : UsageError)
  deriving DecidableEq, Repr

/-- What the options of a command say. -/
structure Settings where
  verbosity : Nat
  config : Option Path
  dialects : List Dialect
  snapshotDir : Option Path
  /-- The other options, each of which says nothing but that it is there. -/
  given : List Switch
  deriving DecidableEq, Repr

namespace Settings

/-- What no options say. -/
def nothing : Settings := ⟨0, none, [], none, []⟩

/-- What is said with one more option that has no value. -/
def flag (s : Settings) (option : Switch) : Except Halt Settings :=
  match option with
  | .help => .error .help
  | .version => .error .version
  | .verbose => .ok { s with verbosity := s.verbosity + 1 }
  | option =>
    if option ∈ s.given then .error (.misuse (.repeated option))
    else .ok { s with given := option :: s.given }

/-- The path given as the value of an option that may be given once. -/
def pathValue (option : Switch) (old : Option Path) (value : Text) : Except Halt (Option Path) :=
  if value = [] then .error (.misuse (.missingValue option))
  else if old.isSome then .error (.misuse (.repeated option))
  else .ok (some ⟨String.ofList value⟩)

/-- What is said with one more option and its value. -/
def value (s : Settings) (option : Switch) (value : Text) : Except Halt Settings :=
  match option with
  | .config => do return { s with config := ← pathValue .config s.config value }
  | .snapshotDir => do return { s with snapshotDir := ← pathValue .snapshotDir s.snapshotDir value }
  | .dialect =>
    let word := String.ofList value
    match Dialect.read? word with
    | some d => .ok { s with dialects := s.dialects ++ [d] }
    | none => .error (.misuse (.unknownDialect word))
  | option => .error (.misuse (.needlessValue option))

/-- The manifest's file. -/
def configPath (s : Settings) : Path := s.config.getD ⟨"dialectic.toml"⟩

end Settings

/-- Reads options that are written by their short names in one word. The answer names the option
that still lacks its value, if there is one. -/
def readCluster (allowed : List Switch) (s : Settings) :
    List Char → Except Halt (Settings × Option Switch)
  | [] => .ok (s, none)
  | c :: cs =>
    match allowed.find? (·.short? == some c) with
    | none => .error (.misuse (.unknownOption (String.ofList ['-', c])))
    | some option =>
      if option.takesValue then
        match cs with
        | [] => .ok (s, some option)
        | '=' :: value => (s.value option value).map (·, none)
        | value => (s.value option value).map (·, none)
      else do
        let s ← s.flag option
        readCluster allowed s cs

/-- Reads an option that is written by its long name, perhaps with a value behind `=`. The answer
names the option if it still lacks its value. -/
def readLong (allowed : List Switch) (s : Settings) (body : Text) :
    Except Halt (Settings × Option Switch) :=
  let (name, value) :=
    match splitOnce? ['='] body with
    | some (name, value) => (name, some value)
    | none => (body, none)
  match allowed.find? (·.long.toList == name), value with
  | none, _ => .error (.misuse (.unknownOption ("--" ++ String.ofList name)))
  | some option, some value => (s.value option value).map (·, none)
  | some option, none =>
    if option.takesValue then .ok (s, some option) else (s.flag option).map (·, none)

/-- What has been read of words, and the words that are left. -/
structure Unread where
  settings : Settings
  words : List String
  /-- Whether a `--` told that no word that is left is an option. -/
  literal : Bool
  deriving DecidableEq, Repr

/-- Reads the options in front of the first word that is none; `pending` is an option that lacks its
value. -/
def readOptions (allowed : List Switch) (s : Settings) (pending : Option Switch) :
    List String → Except Halt Unread
  | [] =>
    match pending with
    | some option => .error (.misuse (.missingValue option))
    | none => .ok ⟨s, [], false⟩
  | word :: rest =>
    match pending, word.toList with
    | some option, '-' :: _ :: _ => .error (.misuse (.missingValue option))
    | some option, value => do readOptions allowed (← s.value option value) none rest
    | none, ['-', '-'] => .ok ⟨s, rest, true⟩
    | none, '-' :: '-' :: body => do
      let (s, pending) ← readLong allowed s body
      readOptions allowed s pending rest
    | none, '-' :: c :: cs => do
      let (s, pending) ← readCluster allowed s (c :: cs)
      readOptions allowed s pending rest
    | none, _ => .ok ⟨s, word :: rest, false⟩

/-- What is to be done with a project. -/
inductive Job where
  | generate (o : GenerateOptions) (snapshotDir : Option Path)
  | check
  | clean (dialects : List Dialect) (dryRun : Bool)
  | list (json : Bool)
  deriving DecidableEq, Repr

/-- What is to be done. -/
inductive Command where
  /-- Something with the project of a manifest's file. -/
  | project (config : Path) (job : Job)
  | completions (shell : Shell)
  deriving DecidableEq, Repr

/-- What is to be done, and how much is to be told meanwhile. -/
structure Request where
  verbosity : Nat
  command : Command
  deriving DecidableEq, Repr

/-- The end of a command line, where no words may be left. -/
def Unread.finish (u : Unread) : Except Halt Settings :=
  match u.words with
  | [] => .ok u.settings
  | word :: _ => .error (.misuse (.unexpected word))

/-- The words of a command that names nothing but options. -/
def readSettings (name : CommandName) (words : List String) : Except Halt Settings := do
  (← readOptions name.switches .nothing none words).finish

/-- The words of a command that names a shell. -/
def readShell (words : List String) : Except Halt (Settings × Shell) := do
  let allowed := CommandName.completions.switches
  let u ← readOptions allowed .nothing none words
  match u.words with
  | [] => .error (.misuse .noShell)
  | word :: rest =>
    match Shell.all.find? (·.name == word) with
    | none => .error (.misuse (.unknownShell word))
    | some shell =>
      let u ← if u.literal then .ok { u with words := rest }
        else readOptions allowed u.settings none rest
      return (← u.finish, shell)

namespace Request

/-- The request for a command; options behind its name count more than those in front of it. -/
def ofCommand (outer : Nat) (s : Settings) (command : Command) : Request :=
  ⟨if s.verbosity = 0 then outer else s.verbosity, command⟩

/-- The request for a job, given what is to be done by the options. -/
def readJob (outer : Nat) (name : CommandName) (words : List String) (job : Settings → Job) :
    Except Halt Request := do
  let s ← readSettings name words
  return ofCommand outer s (.project s.configPath (job s))

/-- The request that the words behind a command's name spell. -/
def readCommand (outer : Nat) (name : CommandName) (words : List String) : Except Halt Request :=
  match name with
  | .generate =>
    readJob outer .generate words fun s =>
      .generate ⟨s.dialects, s.given.contains .noRemove, s.given.contains .dryRun⟩ s.snapshotDir
  | .check => readJob outer .check words fun _ => .check
  | .clean => readJob outer .clean words fun s => .clean s.dialects (s.given.contains .dryRun)
  | .list => readJob outer .list words fun s => .list (s.given.contains .json)
  | .completions => do
    let (s, shell) ← readShell words
    return ofCommand outer s (.completions shell)

/-- What is said to someone who asks for help with a command. -/
def readHelp : List String → Halt
  | [] => .help
  | word :: rest =>
    if word = "help" then readHelp rest
    else if (CommandName.ofName? word).isSome && rest.isEmpty then .help
    else .misuse (.unexpected word)

/-- The request that words spell. -/
def read (words : List String) : Except Halt Request := do
  let u ← readOptions [.verbose, .help, .version] .nothing none words
  match u.words with
  | [] => .error (.misuse .noCommand)
  | word :: rest =>
    if u.literal then .error (.misuse (.unexpected word))
    else if word = "help" then .error (readHelp rest)
    else
      match CommandName.ofName? word with
      | some name => readCommand u.settings.verbosity name rest
      | none => .error (.misuse (.unexpected word))

end Request

end Multidialect
