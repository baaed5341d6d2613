/-
# `BootLink.World` — what a task sees and leaves behind

A task runs in a world: the files, a journal of what was logged and printed, the programs that were
launched, and the source units that were handed to the assembler. It ends with a result or a
failure, and the world keeps what was done before a failure. Nothing else happens: a program is
launched by asking a `Launcher`, which is a function of the launches before and of the files.
-/
import BootLink.Store
import BootLink.Text.Lines

namespace BootLink

/-- How important a log entry is. -/
inductive Level
  | debug
  | info
  | warning
  deriving DecidableEq, Repr

/-- The level in capital letters. -/
def Level.name : Level → String
  | .debug => "DEBUG"
  | .info => "INFO"
  | .warning => "WARNING"

/-- Something that was logged or printed. -/
inductive Event
  | log (level : Level) (text : String)
  | out (text : String)
  | err (text : String)
  /-- The place for a developer's trace of an internal error. -/
  | trace
  deriving DecidableEq, Repr

/-- How long a launched program may run. -/
inductive Limit
  | unstated
  | unlimited
  | seconds (s : Seconds)
  deriving DecidableEq, Repr

namespace Limit

/-- A limit that may be absent. -/
def ofOption : Option Seconds → Limit
  | none => unlimited
  | some s => seconds s

/-- The seconds, if there is a limit. -/
def seconds? : Limit → Option Seconds
  | seconds s => some s
  | _ => none

end Limit

/-- The launch of a program: its command line, its limit, and whether its output is discarded. -/
structure Launch where
  command : List String
  limit : Limit
  quiet : Bool := false
  deriving DecidableEq, Repr

/-- How a program ended.  A system's statuses are small, so each of them can be written. -/
structure ExitStatus where
  value : Int
  writable : Text.isWritable value = true
  deriving DecidableEq, Repr

namespace ExitStatus

/-- Everything is well. -/
instance : OfNat ExitStatus 0 := ⟨⟨0, Text.isWritable_of_lt_ten (by decide)⟩⟩

/-- The status of a number. One that is too long for a status counts as a failure like any other. -/
def ofInt (n : Int) : ExitStatus :=
  if h : Text.isWritable n = true then ⟨n, h⟩
  else ⟨1, Text.isWritable_of_lt_ten (by decide)⟩

instance : Coe Int ExitStatus := ⟨ofInt⟩

end ExitStatus

/-- Runs a program: from the launches before and the files, its exit status or a failure, and the
files afterwards. -/
abbrev Launcher := List Launch → Store → Launch → Except Failure ExitStatus × Store

/-- What a task sees and leaves behind. -/
structure World where
  store : Store := {}
  journal : Array Event := #[]
  launches : List Launch := []
  /-- File name and text of each unit handed to the source assembler. -/
  units : List (String × String) := []

/-- A task: a result or a failure, and the world afterwards in either case. -/
abbrev Task := ExceptT Failure (StateM World)

namespace Task

/-- Runs a task. -/
def runIn (w : World) {α : Type} (t : Task α) : Except Failure α × World := t.run.run w

/-- Runs a task and hands over how it ended. -/
def attempt {α : Type} (t : Task α) : Task (Except Failure α) := ExceptT.lift t.run

/-- A result or a failure that is there already. -/
def ofExcept {α : Type} (r : Except Failure α) : Task α := ExceptT.mk (pure r)

/-- Adds to the journal. -/
def record (e : Event) : Task Unit := modify fun w => { w with journal := w.journal.push e }

/-- Logs a text. -/
def log (level : Level) (text : String) : Task Unit := record (.log level text)

/-- Logs a detail. -/
def debug (text : String) : Task Unit := log .debug text

/-- Logs progress. -/
def info (text : String) : Task Unit := log .info text

/-- Logs something that is not right but does not stop the task. -/
def warn (text : String) : Task Unit := log .warning text

/-! ## Files -/

/-- What the store answers, a refusal being about a path. -/
def answer {α : Type} (p : Path) (r : Except SystemCondition α) : Task α :=
  ofExcept (r.mapError fun c => .system c (.onPath p))

/-- Refuses a path that no file can have. -/
def validate (p : Path) : Task Unit :=
  if p.isValid then return else throw .nullCharacter

/-- Whether a path leads to a file. A name that is too long is a failure, nothing else is. -/
def isFile (p : Path) : Task Bool := do
  if !p.isValid then return false
  let store := (← get).store
  match store.locate p with
  | .error .nameTooLong => throw (.system .nameTooLong (.onPath p))
  | _ => return store.isFile p

/-- The content of a file. -/
def readBytes (p : Path) : Task ByteArray := do
  validate p
  answer p ((← get).store.read p)

/-- The text of a file, with one kind of line end. -/
def readText (p : Path) : Task String := do
  let content ← readBytes p
  match Text.Utf8.decode content with
  | .ok s => return String.ofList (Text.unifyLineEnds s.toList)
  | .error fault => throw (.notText fault)

/-- Replaces the content of a file, or makes the file. A write that fails may leave a part. -/
def writeBytes (p : Path) (content : ByteArray) : Task Unit := do
  validate p
  let (result, store) := (← get).store.writeOut p content
  modify fun w => { w with store }
  ofExcept result

/-- Writes a text as it stands. -/
def writeText (p : Path) (text : String) : Task Unit := writeBytes p text.toUTF8

/-- Makes a directory in one that exists. One that is there already is as good. -/
def makeDirectory (p : Path) : Task Unit := do
  let world ← get
  match world.store.makeDirectory p with
  | .ok store => set { world with store }
  | .error c =>
    if !world.store.isDirectory p then throw (.system c (.onPath p))

/-- Makes a directory and those above it, `height` steps up at most. -/
def makeDirectoriesFrom : Nat → Path → Task Unit
  | 0, p => makeDirectory p
  | height + 1, p => do
    match (← get).store.makeDirectory p with
    | .error .missing =>
      makeDirectoriesFrom height p.parent
      makeDirectory p
    | _ => makeDirectory p

/-- How many directories wait for the one above them before `p` can be made, `height` at most. -/
def waiting (s : Store) : Nat → Path → Nat
  | 0, _ => 0
  | height + 1, p =>
    match s.makeDirectory p with
    | .error .missing => waiting s height p.parent + 1
    | _ => 0

/-- How many directories may wait for each other at most. -/
def waitingLimit : Nat := 984

/-- Makes a directory and those above it. -/
def makeDirectories (p : Path) : Task Unit := do
  validate p
  if waitingLimit < waiting (← get).store p.parts.length p then
    throw (.broken .tooDeep "maximum recursion depth exceeded")
  makeDirectoriesFrom p.parts.length p

/-- Removes a file, or a directory with everything below it. What stands below is gone even if the
directory itself cannot be removed. -/
def remove (p : Path) : Task Unit := do
  validate p
  match (← get).store.node? p, (← get).store.locate p with
  | some .directory, .ok l =>
    modify fun w => { w with store := w.store.clear l }
    let store ← answer p ((← get).store.removeDirectory p)
    modify fun w => { w with store }
  | _, _ =>
    let store ← answer p ((← get).store.removeFile p)
    modify fun w => { w with store }

/-! ## Programs -/

/-- Launches a program and waits for its exit status. -/
def launch (run : Launcher) (l : Launch) : Task ExitStatus := ExceptT.mk do
  let world ← get
  let (result, store) := run world.launches world.store l
  set { world with store, launches := world.launches ++ [l] }
  return result

end Task

end BootLink
