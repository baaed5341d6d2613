/-
# `BootLink.Component` — the exchangeable parts of a build

Four services do the work that a build does not do itself: assembling source text, generating
native assembly text, optimizing it, and writing bytecode. A component is something that was
plugged in; it offers some of the services, and asking for one it lacks is a failure. Services are
functions, so a component cannot touch files or launch programs. The optimizer that changes nothing
and the library's own bytecode are the defaults for their services.
-/
import BootLink.World

namespace BootLink

/-- What assembling a unit gives: a program unless it went wrong, and all that was found. -/
structure AssemblyResult where
  program : Option Program := none
  diagnostics : List Diagnostic := []

/-- The program, if there is one and nothing was found wrong with it. -/
def AssemblyResult.success? (r : AssemblyResult) : Option Program :=
  if r.diagnostics.isEmpty then r.program else none

/-- Source text and file name to a program. -/
abbrev Assembler := String → String → Except Failure AssemblyResult

/-- The width of native code. -/
inductive Width
  | bits16
  | bits32
  deriving DecidableEq, Repr

/-- Programs to native assembly text, as a boot sector or as plain code. -/
structure NativeGenerator where
  bootSector : List Instruction → List DataItem → Table String Int → Except Failure String
  assembly : List Instruction → Width → Except Failure String

/-- Assembly text to better assembly text. -/
abbrev Optimizer := String → Except Failure String

/-- Bytes, and what their generator has to report. -/
structure Blob where
  bytes : ByteArray
  notes : List String := []

/-- The bytecode of a program, with its sizes to report. -/
def Blob.ofProgram (p : Program) : Except Failure Blob :=
  match Bytecode.encode p with
  | .ok bytes => .ok ⟨⟨bytes.toArray⟩, [Bytecode.note p bytes.length]⟩
  | .error fault => .error (.ofGeneration fault)

/-- A linked program to bytes. -/
abbrev BytecodeGenerator := Program → Except Failure Blob

/-- How a component shows itself: as nothing at all, a text, an object of a class, a single service
taken out of its object, a whole unit, or something of a kind that stands for a type, for which
there may be a name. -/
inductive Shape
  | nothing
  | text (content : String)
  | instanceOf (className : String)
  | service
  | unit (name : String)
  | typeForm (kind : String) (type? : Option String)
  deriving DecidableEq, Repr

/-- What was plugged in, in one word; of a dotted class name the last part. -/
def Shape.kind : Shape → String
  | .nothing => "NoneType"
  | .text _ => "str"
  | .instanceOf className =>
    String.ofList ((Text.pieces '.' className.toList).getLast?.getD [])
  | .service => "method"
  | .unit _ => "module"
  | .typeForm kind _ => kind

/-- The shape of a kind of things. -/
def Shape.ofKind : String → Shape
  | "NoneType" => .nothing
  | "method" => .service
  | kind => .instanceOf kind

/-- What was plugged in, as a message names it. For what stands for a type the type is named. -/
def Shape.description : Shape → String
  | .instanceOf className => "'" ++ className ++ "' object"
  | .service => "'function' object"
  | .unit name => "module '" ++ name ++ "'"
  | .typeForm _ (some type) => "type object '" ++ type ++ "'"
  | shape => "'" ++ shape.kind ++ "' object"

/-- That there is no member of a name. What stands for a type without a name says only the
member. -/
def Shape.lacks (shape : Shape) (member : String) : String :=
  match shape with
  | .typeForm _ none => member
  | shape => shape.description ++ " has no attribute '" ++ member ++ "'"

/-- Something that was plugged in, with the services it offers. -/
structure Component where
  shape : Shape
  assembler : Option Assembler := none
  native : Option NativeGenerator := none
  optimizer : Option Optimizer := none
  bytecode : Option BytecodeGenerator := none

namespace Component

/-- A service that a component may lack. -/
def service {α : Type} (c : Component) (method : String) (offered : Option α) : Except Failure α :=
  match offered with
  | some s => .ok s
  | none => .error (.broken .missingMember (c.shape.lacks method))

/-- The assembling service. -/
def assemble (c : Component) : Except Failure Assembler := c.service "assemble" c.assembler

/-- The optimizing service. -/
def optimize (c : Component) : Except Failure Optimizer := c.service "optimize" c.optimizer

/-- The bytecode service. -/
def generate (c : Component) : Except Failure BytecodeGenerator := c.service "generate" c.bytecode

/-- The native service for a boot sector. -/
def generateBootSector (c : Component) :
    Except Failure (List Instruction → List DataItem → Table String Int → Except Failure String) :=
  c.service "generate_boot_sector" (c.native.map (·.bootSector))

/-- The native service for plain code. -/
def generateAssembly (c : Component) :
    Except Failure (List Instruction → Width → Except Failure String) :=
  c.service "generate_assembly" (c.native.map (·.assembly))

/-- The optimizer that changes nothing. -/
def passThrough : Component :=
  { shape := .instanceOf "PassThroughOptimizer", optimizer := some .ok }

/-- The library's own bytecode. -/
def bytecodeWriter : Component :=
  { shape := .instanceOf "RomasmBytecodeGenerator", bytecode := some Blob.ofProgram }

end Component

/-- A failure that the tools do not foresee, told as the failure of a component. -/
def Failure.ofComponent (what : String) (f : Failure) : Failure :=
  if f.isBuildFailure then f else .generation (.componentFailed what f.message)

/-- The components of one build. The first two have no default. -/
structure Components where
  assembler : Option Component := none
  native : Option Component := none
  optimizer : Component := .passThrough
  bytecode : Component := .bytecodeWriter

namespace Components

/-- A component that must be there, and not as nothing. -/
def require (c : Option Component) (fault : ComponentFault) : Except Failure Component :=
  match c.filter (·.shape ≠ .nothing) with
  | some c => .ok c
  | none => .error (.component fault)

/-- The source assembler, which must be there. -/
def requireAssembler (cs : Components) : Except Failure Component :=
  require cs.assembler .noAssembler

/-- The native generator, which must be there. -/
def requireNative (cs : Components) : Except Failure Component :=
  require cs.native .noGenerator

end Components

end BootLink
