/-
# `BootLink.Command.Settings` — what the commands accept as values

The values on a command line are checked before anything runs: those of the options in the order in
which the options first came, then the arguments. The first that is refused decides what becomes of
the call. Paths are looked up in the spelling in which they were given. The three commands share
some options.
-/
import BootLink.Catalogue
import BootLink.Command.Arguments
import BootLink.Command.Report

namespace BootLink.Command

/-- What a command is given besides its arguments: the components there are, the launcher, the
directory it is started in, and the environment. -/
structure Setting where
  catalogue : Catalogue := []
  launcher : Launcher
  here : Path
  environment : Environment := []

/-- Refuses a command line that cannot be read. -/
def refuse (fault : ArgumentFault) : Task Outcome :=
  match fault.message? with
  | some text => finish "" false (throw (.badOption text))
  | none => return .usage

/-! ## Values -/

/-- Why a value is refused: it is not what is asked for, or it cannot even be looked at. -/
inductive Refusal
  | unfit
  | failed (failure : Failure)

/-- What becomes of a call with a refused value. -/
def Refusal.outcome : Refusal → Task Outcome
  | unfit => return .usage
  | failed failure => throw failure

/-- A value that has been read, or why it is refused. -/
abbrev Checked (α : Type) := Except Refusal α

/-- Why a value is refused, if it is. -/
def Checked.refusal? {α : Type} : Checked α → Option Refusal
  | .ok _ => none
  | .error r => some r

/-- What stands at a path. -/
def lookUp (s : Store) (text : String) : Checked (Option Node) :=
  if (Path.ofText text).isValid then .ok (s.nodeOfText? text) else .error (.failed .nullCharacter)

/-- A path, if what stands there passes a test. -/
def checkedPath (s : Store) (fits : Option Node → Bool) (text : String) : Checked Path := do
  if fits (← lookUp s text) then return .ofText text else throw .unfit

/-- A directory that is there. -/
def existingDirectory (s : Store) : String → Checked Path :=
  checkedPath s fun
    | some .directory => true
    | _ => false

/-- A path that is no file. -/
def directoryPath (s : Store) : String → Checked Path :=
  checkedPath s fun
    | some (.file _) => false
    | _ => true

/-- A file that is there. -/
def existingFile (s : Store) : String → Checked Path :=
  checkedPath s fun
    | some (.file _) => true
    | _ => false

/-- A path that is no directory. -/
def filePath (s : Store) : String → Checked Path :=
  checkedPath s fun
    | some .directory => false
    | _ => true

/-- A number of seconds. -/
def seconds (text : String) : Checked Seconds :=
  match Seconds.ofText? text with
  | some t => .ok t
  | none => .error .unfit

section
variable {κ α : Type} [DecidableEq κ]

/-- The value of an option, if it is there. -/
def readSetting (items : List (Item κ)) (key : κ) (read : String → Checked α) :
    Checked (Option α) :=
  match setting? items key with
  | some text => (read text).map some
  | none => .ok none

/-- Refuses a call for the first option with a refused value. -/
def checkSettings (items : List (Item κ)) (refusal? : κ → Option Refusal) : Checked Unit :=
  let first := items.findSome? fun
    | .setting key _ => refusal? key
    | _ => none
  match first with
  | some r => .error r
  | none => .ok ()

end

/-- The first argument, which must be there, and the others. -/
def nextArgument : List String → Checked (String × List String)
  | a :: rest => .ok (a, rest)
  | [] => .error .unfit

/-- Refuses further arguments. -/
def noArguments : List String → Checked Unit
  | [] => .ok ()
  | _ => .error .unfit

/-- At most one argument, with a default. -/
def oneArgument (default : String) (args : List String) : Checked String := do
  noArguments (args.drop 1)
  return args.headD default

/-! ## Calls -/

/-- Runs a command on its command line, if that can be read and asks for something. Whoever asks for
help or for the release gets nothing else, and only what was asked for first. -/
def runOn {κ ρ : Type} [DecidableEq κ] (tool : String) (specs : List (OptionSpec κ))
    (help version : κ) (args : List String) (request : Store → List (Item κ) → Checked ρ)
    (run : ρ → Task Outcome) : Task Outcome := do
  match readArguments specs args with
  | .error fault => refuse fault
  | .ok items =>
    match items.find? fun item => item = .flag help || item = .flag version with
    | some item => if item = .flag help then return .help else showRelease tool
    | none =>
      match request (← get).store items with
      | .ok r => run r
      | .error r => r.outcome

/-- The components that a command line names. -/
structure ComponentNames where
  assembler : Option String
  generator : Option String
  optimizer : Option String

/-- The configuration of the environment; a limit that is no number is a bad option. -/
def environmentConfig (s : Setting) : Task Config :=
  Task.ofExcept ((Config.ofEnvironment s.here s.environment).mapError (.badOption ·.message))

/-- The configuration with the components that a command line names. -/
def ComponentNames.apply (n : ComponentNames) (c : Config) : Config :=
  c.withComponents n.assembler n.generator n.optimizer

end BootLink.Command
