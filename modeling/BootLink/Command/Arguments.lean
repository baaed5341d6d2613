/-
# `BootLink.Command.Arguments` — reading a command line

Options and arguments may be mixed. A long option takes its value after an equals sign or from the
next argument, whatever that looks like; short options may share one dash, and the first of them
that takes a value takes the rest of the text, or else the next argument. After two dashes alone
everything is an argument; one dash alone always is. Names are not abbreviated. The first argument
that cannot be read is a fault.
-/
import BootLink.Text.Quoted
import BootLink.Text.Search

namespace BootLink.Command

/-- An option: its names with their dashes, what it stands for, and whether it takes a value. -/
structure OptionSpec (κ : Type) where
  names : List String
  key : κ
  takesValue : Bool := false

/-- A piece of a command line that has been read. -/
inductive Item (κ : Type)
  | flag (key : κ)
  | setting (key : κ) (value : String)
  | argument (value : String)
  deriving DecidableEq, Repr

/-- Why a command line cannot be read. -/
inductive ArgumentFault
  | unknownOption
  | valueMissing (option : String)
  | valueUnwanted (option : String)
  deriving DecidableEq, Repr

/-- The fault in words. For an option that is not known, the caller says which ones there are. -/
def ArgumentFault.message? : ArgumentFault → Option String
  | unknownOption => none
  | valueMissing option => some ("Option " ++ Text.quoted option ++ " requires an argument.")
  | valueUnwanted option => some ("Option " ++ Text.quoted option ++ " does not take a value.")

/-- An option that waits for its value, and the name by which it was called. -/
structure Waiting (κ : Type) where
  key : κ
  name : String

/-- What one argument is by itself. Options may end with one that waits for its value. -/
inductive Reading (κ : Type)
  | separator
  | argument
  | options (items : List (Item κ)) (waiting : Option (Waiting κ))

section
variable {κ : Type} (specs : List (OptionSpec κ))

/-- The option of a name. -/
def findOption (name : List Char) : Option (OptionSpec κ) :=
  specs.find? fun spec => spec.names.contains (String.ofList name)

/-- Short options behind one dash. -/
def readCluster : List Char → Except ArgumentFault (List (Item κ) × Option (Waiting κ))
  | [] => .ok ([], none)
  | c :: rest =>
    match findOption specs ['-', c] with
    | none => .error .unknownOption
    | some spec =>
      if spec.takesValue then
        if rest.isEmpty then .ok ([], some ⟨spec.key, String.ofList ['-', c]⟩)
        else .ok ([.setting spec.key (String.ofList rest)], none)
      else (readCluster rest).map fun (items, waiting) => (.flag spec.key :: items, waiting)

/-- A long option with the value that is attached to it, if any. -/
def readLong (spec : OptionSpec κ) (name : String) (value : Option String) :
    Except ArgumentFault (Reading κ) :=
  match spec.takesValue, value with
  | true, some v => .ok (.options [.setting spec.key v] none)
  | true, none => .ok (.options [] (some ⟨spec.key, name⟩))
  | false, none => .ok (.options [.flag spec.key] none)
  | false, some _ => .error (.valueUnwanted name)

/-- A text before and after its first equals sign. -/
def splitValue (arg : List Char) : List Char × Option String :=
  match Text.cut ['='] arg with
  | some (name, value) => (name, some (String.ofList value))
  | none => (arg, none)

/-- One argument by itself. -/
def readOne (arg : String) : Except ArgumentFault (Reading κ) :=
  match arg.toList with
  | ['-', '-'] => .ok .separator
  | '-' :: c :: rest =>
    let (name, value) := splitValue ('-' :: c :: rest)
    match if name.length > 2 then findOption specs name else none with
    | some spec => readLong spec (String.ofList name) value
    | none =>
      if c = '-' then .error .unknownOption
      else (readCluster specs (c :: rest)).map fun (items, waiting) => .options items waiting
  | _ => .ok .argument

/-- The pieces of a command line, one option perhaps waiting for its value. -/
def readFrom : Option (Waiting κ) → List String → Except ArgumentFault (List (Item κ))
  | none, [] => .ok []
  | some w, [] => .error (.valueMissing w.name)
  | some w, value :: rest => (readFrom none rest).map (.setting w.key value :: ·)
  | none, arg :: rest =>
    match readOne specs arg with
    | .error fault => .error fault
    | .ok .separator => .ok (rest.map .argument)
    | .ok .argument => (readFrom none rest).map (.argument arg :: ·)
    | .ok (.options items waiting) => (readFrom waiting rest).map (items ++ ·)

/-- The pieces of a command line. -/
def readArguments (args : List String) : Except ArgumentFault (List (Item κ)) :=
  readFrom specs none args

end

/-! ## Looking at the pieces -/

section
variable {κ : Type} [DecidableEq κ]

/-- Whether a flag is there. -/
def hasFlag (items : List (Item κ)) (key : κ) : Bool := items.contains (.flag key)

/-- The values of an option, in order. -/
def settings (items : List (Item κ)) (key : κ) : List String :=
  items.filterMap fun
    | .setting k v => if k = key then some v else none
    | _ => none

/-- The value of an option; the last one counts. -/
def setting? (items : List (Item κ)) (key : κ) : Option String := (settings items key).getLast?

/-- What is no option. -/
def plainArguments (items : List (Item κ)) : List String :=
  items.filterMap fun
    | .argument v => some v
    | _ => none

end

end BootLink.Command
