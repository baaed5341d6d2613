/-
# `BootLink.Backend` — from a linked program to assembly text

There are two ways to a boot sector. The native one has the program lowered to assembly text and
optimized. The other writes bytecode and puts it into the boot loader of the virtual machine. Each
writes its own files, named after the program, and never touches those of the other.
-/
import BootLink.Component

namespace BootLink

/-- The way to a boot sector. -/
inductive Mode
  | native
  | vm
  deriving DecidableEq, Repr

namespace Mode

/-- Every mode. -/
def all : List Mode := [native, vm]

/-- The name of a mode. -/
def name : Mode → String
  | native => "native"
  | vm => "vm"

/-- The mode of a name. -/
def ofName? (name : String) : Option Mode := all.find? (·.name = name)

/-- What a build in this mode calls itself. -/
def title : Mode → String
  | native => "Native x86"
  | vm => "VM (Native Romasm)"

end Mode

/-- The files that a backend wrote. -/
structure Artifacts where
  mode : Mode
  assembly : Path
  bytecode : Option Path := none
  deriving DecidableEq, Repr

namespace Backend

/-- A label's line in the layout report: its place in the data or in the code. -/
def labelLine (codeSize : Nat) (name : String) (address : Int) : Except Failure String :=
  if address ≥ codeSize then
    (Failure.numeral (address - codeSize)).map ("  " ++ name ++ " -> data address " ++ ·)
  else (Failure.numeral address).map ("  " ++ name ++ " -> instruction address " ++ ·)

/-- Reports the sizes of a program and where each label is. A place that takes too many digits ends
the report. -/
def reportLayout (p : Program) : Task Unit := do
  let codeSize := p.layout.code
  Task.info ("  Instruction count: " ++ toString codeSize)
  Task.info ("  Data count: " ++ toString p.layout.data)
  Task.info ("  Labels: " ++ toString p.labels.size)
  p.labels.entries.forM fun (name, address) => do
    Task.debug (← Task.ofExcept (labelLine codeSize name address))

/-- What a component answers; a failure of its own kind is told as the component's. -/
def ask {α : Type} (what : String) (answer : Except Failure α) : Task α :=
  Task.ofExcept (answer.mapError (Failure.ofComponent what))

/-- The native way: generate, optimize, write. -/
def generateNative (p : Program) (cs : Components) (output : Path) : Task Artifacts := do
  let native ← Task.ofExcept cs.requireNative
  Task.info "Generating x86 assembly..."
  let generate ← Task.ofExcept native.generateBootSector
  let text ← ask "x86 generator" (generate p.instructions p.data p.labels)
  Task.info "Optimizing x86 assembly..."
  let optimize ← Task.ofExcept cs.optimizer.optimize
  let text ← ask "optimizer" (optimize text)
  Task.writeText output text
  Task.info ("✓ Generated x86 assembly: " ++ output.text)
  return { mode := .native, assembly := output }

/-- The bytes of a blob, after its notes. -/
def unpack (blob : Blob) : Task ByteArray := do
  blob.notes.forM Task.debug
  return blob.bytes

/-- The bytecode of a program. -/
def generateBytecode (p : Program) (cs : Components) : Task ByteArray := do
  let generate ← Task.ofExcept cs.bytecode.generate
  unpack (← ask "bytecode generator" (generate p))

/-- The way through the virtual machine: write bytecode, then the boot loader around it. -/
def generateVm (p : Program) (cs : Components) (bytecode assembly template : Path) :
    Task Artifacts := do
  if !(← Task.isFile template) then throw (.sourceNotFound template "template")
  Task.info "Generating Romasm bytecode..."
  let blob ← generateBytecode p cs
  Task.writeBytes bytecode blob
  Task.info ("✓ Generated bytecode: " ++ bytecode.text ++ " (" ++ toString blob.size ++ " bytes)")
  Task.info "Creating VM bootloader image..."
  let text ← Task.readText template
  match Template.splice text blob.data.toList with
  | .error fault => throw (.template fault (some template))
  | .ok spliced =>
    Task.writeText assembly spliced
    Task.info ("✓ Generated VM bootloader: " ++ assembly.text)
    return { mode := .vm, assembly, bytecode := some bytecode }

/-- Takes the way that the mode says. -/
def dispatch (p : Program) (mode : Mode) (cs : Components) (dir : Path) (name : String)
    (template : Option Path) : Task Artifacts := do
  reportLayout p
  match mode, template with
  | .native, _ => generateNative p cs (dir.child (name ++ ".asm"))
  | .vm, none => throw (.generation .templateRequired)
  | .vm, some template =>
    generateVm p cs (dir.child (name ++ ".rombin")) (dir.child (name ++ "-vm.asm")) template

end Backend

end BootLink
