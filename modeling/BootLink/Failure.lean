/-
# `BootLink.Failure` — everything that can stop a build

A failure is told by its cause, and `message` puts it into words. Build failures are those that the
tools themselves foresee. The others come from the operating system, from the launch of a program,
from a file that is no text, or from a component that breaks in a way of its own.
-/
import BootLink.Bytecode
import BootLink.Diagnostic
import BootLink.Link.Merge
import BootLink.Path
import BootLink.Seconds
import BootLink.Template
import BootLink.Text.Utf8

namespace BootLink

/-- What the operating system can refuse. -/
inductive SystemCondition
  | missing
  | occupied
  | notDirectory
  | isDirectory
  | denied
  | nameTooLong
  | notEmpty
  | invalid
  | other
  deriving DecidableEq, Repr

/-- The system's number for a condition, and its words. -/
def SystemCondition.entry : SystemCondition → Nat × String
  | .missing => (2, "No such file or directory")
  | .occupied => (17, "File exists")
  | .notDirectory => (20, "Not a directory")
  | .isDirectory => (21, "Is a directory")
  | .denied => (13, "Permission denied")
  | .nameTooLong => (36, "File name too long")
  | .notEmpty => (39, "Directory not empty")
  | .invalid => (22, "Invalid argument")
  | .other => (5, "Input/output error")

/-- What a refusal of the system is about. -/
inductive SystemDetail
  | onPath (path : Path)
  /-- Told by someone else, in their own words. -/
  | reported (message : String)
  deriving DecidableEq, Repr

/-- Why a component cannot be used. -/
inductive ComponentFault
  | malformedPath (path : String)
  | unitNotFound (unit missing : String)
  | unitNotPackage (unit missing parent : String)
  | memberNotFound (unit member : String)
  | noAssembler
  | noGenerator
  /-- Told by someone else, in their own words. -/
  | reported (message : String)
  deriving DecidableEq, Repr

/-- The fault in words. -/
def ComponentFault.message : ComponentFault → String
  | .malformedPath path =>
    "invalid collaborator path '" ++ path ++ "': expected 'package.module:attribute'"
  | .unitNotFound unit missing =>
    "cannot import '" ++ unit ++ "': No module named " ++ Text.quoted missing
  | .unitNotPackage unit missing parent =>
    "cannot import '" ++ unit ++ "': No module named " ++ Text.quoted missing ++ "; " ++
      Text.quoted parent ++ " is not a package"
  | .memberNotFound unit member => "'" ++ unit ++ "' has no attribute '" ++ member ++ "'"
  | .noAssembler =>
    "no Romasm source assembler configured (set ROMANOS_ASSEMBLER or pass --assembler)"
  | .noGenerator =>
    "no x86 code generator configured (set ROMANOS_NATIVE_GENERATOR or pass --generator)"
  | .reported message => message

/-- The ways in which a component, or a value given to it, can break. -/
inductive Breakage
  | missingKey
  | badValue
  | runtime
  | missingMember
  | badCall
  | tooDeep
  deriving DecidableEq, Repr

/-- Everything that can stop a build. -/
inductive Failure
  | sourceNotFound (path : Path) (role : String)
  | assembly (unit : String) (diagnostics : List Diagnostic)
  | relocation (fault : RelocationFault)
  | generation (fault : GenerationFault)
  | template (fault : TemplateFault) (file : Option Path)
  | toolchainNotFound (candidates : List String)
  | externalAssembly (command : List String) (status : Option Int) (timedOut : Bool)
  | component (fault : ComponentFault)
  | build (message : String)
  | badOption (message : String)
  | system (condition : SystemCondition) (detail : SystemDetail)
  | timeExpired (command : List String) (limit : Option Seconds)
  | notText (fault : Text.Utf8.Fault)
  | broken (how : Breakage) (message : String)
  deriving DecidableEq, Repr

namespace Failure

/-- A key that a map does not hold. -/
def missingKey (key : String) : Failure := broken .missingKey (Text.quoted key)

/-- A text with a null character, which the system does not take. -/
def nullCharacter : Failure := broken .badValue "embedded null byte"

/-- A number with more digits than may be written. -/
def longNumeral : Failure :=
  broken .badValue <|
    "Exceeds the limit (" ++ toString Text.digitLimit ++ " digits) for integer string " ++
      "conversion; use sys.set_int_max_str_digits() to increase the limit"

/-- A number in digits, unless there are too many. -/
def numeral (n : Int) : Except Failure String :=
  match Text.numeral? n with
  | some digits => .ok digits
  | none => .error longNumeral

/-- What an assembler finds wrong with a unit. A batch that cannot be told fails for the number of
digits in it. -/
def ofDiagnostics (unit : String) (ds : List Diagnostic) : Failure :=
  match Diagnostic.batchText? unit ds with
  | some _ => assembly unit ds
  | none => longNumeral

/-- A fault of a backend. One that cannot be put into words fails for the number in it. -/
def ofGeneration (fault : GenerationFault) : Failure :=
  if fault.isWritable then generation fault else longNumeral

/-- A name that is none of those of an enumeration. -/
def notValid (enumeration name : String) : Failure :=
  broken .badValue (Text.quoted name ++ " is not a valid " ++ enumeration)

/-- A refusal of the system in words. -/
def systemMessage (condition : SystemCondition) : SystemDetail → String
  | .onPath path =>
    let (number, words) := condition.entry
    "[Errno " ++ toString number ++ "] " ++ words ++ ": " ++ Text.quoted path.text
  | .reported message => message

/-- A missing assembler, with all that was tried. -/
def toolchainMessage (candidates : List String) : String :=
  "no working assembler found. Tried:\n" ++
    "\n".intercalate (candidates.map fun c => "  - " ++ c) ++
    "\nInstall NASM with: apt-get install nasm (Linux) or brew install nasm (Mac)"

/-- How the external assembler ended. A status that cannot be written is left out. -/
def externalMessage (command : List String) (status : Option Int) (timedOut : Bool) : String :=
  let reason := if timedOut then "timed out"
    else "exited with status " ++
      match status with
      | some n => (Text.numeral? n).getD ""
      | none => "None"
  "external assembler " ++ reason ++ ": " ++ " ".intercalate command

/-- The failure in words. -/
def message : Failure → String
  | sourceNotFound path role => role ++ " file not found: " ++ path.text
  | assembly unit diagnostics => Diagnostic.batchText unit diagnostics
  | relocation fault => fault.message
  | generation fault => fault.message
  | template fault none => fault.message
  | template fault (some file) => file.text ++ ": " ++ fault.message
  | toolchainNotFound candidates => toolchainMessage candidates
  | externalAssembly command status timedOut => externalMessage command status timedOut
  | component fault => fault.message
  | build message => message
  | badOption message => message
  | system condition detail => systemMessage condition detail
  | timeExpired command limit =>
    "Command '" ++ Text.quotedList command ++ "' timed out after " ++
      (limit.map Seconds.text).getD "None" ++ " seconds"
  | notText fault => fault.message
  | broken _ message => message

/-- Whether the tools foresee the failure. -/
def isBuildFailure : Failure → Bool
  | sourceNotFound .. | assembly .. | relocation _ | generation _ | template ..
  | toolchainNotFound _ | externalAssembly .. | component _ | build _ => true
  | badOption _ | system .. | timeExpired .. | notText _ | broken .. => false

/-- Whether a program could not be launched, or not be waited for. -/
def isLaunchFailure : Failure → Bool
  | system .. | timeExpired .. => true
  | _ => false

end Failure

end BootLink
