/-
# `BootLink.Config` — what a build is told

A configuration has defaults, which the environment and then the command line may override. Paths
are relative to the project's root unless they are absolute:

    examples/<name>.romasm           programs
    stdlib/bios.romasm               the library that is linked if it is there
    vm/romasm-vm-bootloader.asm      the boot loader's text
    build/                           what a build writes
-/
import BootLink.Toolchain

namespace BootLink

/-- Variables with their values. -/
abbrev Environment := List (String × String)

/-- The value of a variable; an empty one counts as not set. -/
def Environment.get? (env : Environment) (name : String) : Option String :=
  (env.lookup name).filter (· ≠ "")

/-- What a build is told. -/
structure Config where
  root : Path
  examplesDir : Path := .ofText "examples"
  buildDir : Path := .ofText "build"
  /-- Units linked after the program, in order. -/
  libraries : List Path := [.ofText "stdlib/bios.romasm"]
  /-- Whether a library that is missing is an error. -/
  librariesRequired : Bool := false
  template : Path := .ofText "vm/romasm-vm-bootloader.asm"
  candidates : List String := Toolchain.defaultCandidates
  assemblyLimit : Option Seconds := Toolchain.defaultAssemblyLimit
  probeLimit : Option Seconds := Toolchain.defaultProbeLimit
  assembler : Option String := none
  nativeGenerator : Option String := none
  optimizer : Option String := none
  bytecodeGenerator : Option String := none
  deriving DecidableEq, Repr

/-- A limit in the environment that is no number of seconds. -/
structure InvalidLimit where
  given : String
  deriving DecidableEq, Repr

/-- The fault in words. -/
def InvalidLimit.message (l : InvalidLimit) : String :=
  "ROMANOS_NASM_TIMEOUT must be a number of seconds, got " ++ Text.quoted l.given

namespace Config

/-- The program that is built if none is named. -/
def defaultExample : String := "hello-world"

/-- The suffix of source files. -/
def sourceSuffix : String := ".romasm"

/-- The variables that a configuration looks at. -/
def variableNames : List String :=
  ["ROMANOS_ROOT", "ROMANOS_BUILD_DIR", "ROMANOS_NASM", "ROMANOS_NASM_TIMEOUT", "ROMANOS_ASSEMBLER",
    "ROMANOS_NATIVE_GENERATOR", "ROMANOS_OPTIMIZER", "ROMANOS_BYTECODE_GENERATOR"]

/-- The limit for assembling that the environment sets. -/
def environmentLimit (env : Environment) : Except InvalidLimit (Option Seconds) :=
  match env.get? "ROMANOS_NASM_TIMEOUT" with
  | none => .ok Toolchain.defaultAssemblyLimit
  | some given =>
    match Seconds.ofText? given with
    | some s => .ok s.limit?
    | none => .error ⟨given⟩

/-- The defaults with what the environment overrides, for a project in the given directory. -/
def ofEnvironment (here : Path) (env : Environment) : Except InvalidLimit Config := do
  let assemblyLimit ← environmentLimit env
  return {
    root := ((env.get? "ROMANOS_ROOT").map Path.ofText).getD here
    buildDir := ((env.get? "ROMANOS_BUILD_DIR").map Path.ofText).getD (.ofText "build")
    candidates := (env.get? "ROMANOS_NASM").toList ++ Toolchain.defaultCandidates
    assemblyLimit
    assembler := env.get? "ROMANOS_ASSEMBLER"
    nativeGenerator := env.get? "ROMANOS_NATIVE_GENERATOR"
    optimizer := env.get? "ROMANOS_OPTIMIZER"
    bytecodeGenerator := env.get? "ROMANOS_BYTECODE_GENERATOR" }

/-- A name that overrides another if it is given and not empty. -/
def override (given current : Option String) : Option String :=
  (given.filter (· ≠ "")).or current

/-- The configuration with the components that a command line names. -/
def withComponents (c : Config) (assembler generator optimizer : Option String) : Config :=
  { c with
    assembler := override assembler c.assembler
    nativeGenerator := override generator c.nativeGenerator
    optimizer := override optimizer c.optimizer }

/-! ## Paths -/

/-- A path of the project, seen from its root. -/
def resolve (c : Config) (p : Path) : Path := c.root.join p

/-- The source file of a program. -/
def sourcePath (c : Config) (program : String) : Path :=
  (c.resolve c.examplesDir).child (program ++ sourceSuffix)

/-- The source files of the libraries, in order. -/
def libraryPaths (c : Config) : List Path := c.libraries.map c.resolve

/-- The file of the boot loader's text. -/
def templatePath (c : Config) : Path := c.resolve c.template

/-- The directory of what a build writes. -/
def outputDir (c : Config) : Path := c.resolve c.buildDir

end Config

end BootLink
