/-
# `BootLink.Command.Build` — the command `rosbuild`

    rosbuild [EXAMPLE] [--vm] [--root DIR] [--build-dir DIR] [-L FILE]... [--no-library]
             [--nasm PROGRAM] [--timeout SECONDS] [--assembler NAME] [--generator NAME]
             [--optimizer NAME] [-v] [--version] [--help]

Builds a program of the project into a floppy image and says how to run it.
-/
import BootLink.Build
import BootLink.Command.Settings

namespace BootLink.Command.Build

/-- The options. -/
inductive Key
  | vm | root | buildDir | library | noLibrary | nasm | timeout
  | assembler | generator | optimizer | verbose | version | help
  deriving DecidableEq, Repr

/-- Their names. -/
def specs : List (OptionSpec Key) := [
  { names := ["--vm"], key := .vm },
  { names := ["--root"], key := .root, takesValue := true },
  { names := ["--build-dir"], key := .buildDir, takesValue := true },
  { names := ["-L", "--library"], key := .library, takesValue := true },
  { names := ["--no-library"], key := .noLibrary },
  { names := ["--nasm"], key := .nasm, takesValue := true },
  { names := ["--timeout"], key := .timeout, takesValue := true },
  { names := ["--assembler"], key := .assembler, takesValue := true },
  { names := ["--generator"], key := .generator, takesValue := true },
  { names := ["--optimizer"], key := .optimizer, takesValue := true },
  { names := ["-v", "--verbose"], key := .verbose },
  { names := ["--version"], key := .version },
  { names := ["--help"], key := .help }]

/-- What the command was asked to do. -/
structure Request where
  program : String
  mode : Mode
  root : Option Path
  buildDir : Option Path
  libraries : List Path
  noLibrary : Bool
  nasm : Option String
  timeout : Option Seconds
  components : ComponentNames
  verbose : Bool

/-- Reads what the command was asked to do. -/
def request (s : Store) (items : List (Item Key)) : Checked Request := do
  let root := readSetting items .root (existingDirectory s)
  let buildDir := readSetting items .buildDir (directoryPath s)
  let libraries : Checked (List Path) := (settings items .library).mapM (filePath s)
  let timeout := readSetting items .timeout seconds
  checkSettings items fun
    | .root => root.refusal?
    | .buildDir => buildDir.refusal?
    | .library => libraries.refusal?
    | .timeout => timeout.refusal?
    | _ => none
  return {
    program := ← oneArgument Config.defaultExample (plainArguments items)
    mode := if hasFlag items .vm then .vm else .native
    root := ← root
    buildDir := ← buildDir
    libraries := ← libraries
    noLibrary := hasFlag items .noLibrary
    nasm := setting? items .nasm
    timeout := ← timeout
    components := ⟨setting? items .assembler, setting? items .generator, setting? items .optimizer⟩
    verbose := hasFlag items .verbose }

/-- The libraries of a request: those named must be there, or none, or the configured ones. -/
def withLibraries (r : Request) (c : Config) : Config :=
  if !r.libraries.isEmpty then { c with libraries := r.libraries, librariesRequired := true }
  else if r.noLibrary then { c with libraries := [] }
  else c

/-- The configuration with what the request overrides. -/
def configure (r : Request) (c : Config) : Config :=
  let c := { c with
    root := r.root.getD c.root
    buildDir := r.buildDir.getD c.buildDir
    candidates := (r.nasm.filter (· ≠ "")).toList ++ c.candidates
    assemblyLimit := match r.timeout with
      | some t => t.limit?
      | none => c.assemblyLimit }
  r.components.apply (withLibraries r c)

/-- What is said in the end. -/
def closing (r : BuildResult) : List String :=
  ["", "Build complete!", "Output: " ++ r.imagePath.text, "", "Run with:", "  rosrun " ++ r.name,
    "  or", "  qemu-system-x86_64 -drive file=" ++ r.imagePath.text ++ ",format=raw,if=floppy"]

/-- Does what was asked. -/
def perform (s : Setting) (r : Request) : Task Nat := do
  if !r.libraries.isEmpty && r.noLibrary then
    throw (.badOption "--library and --no-library cannot be used together")
  let config := configure r (← environmentConfig s)
  Task.record (.out "RomanOS Build System")
  Task.record (.out "====================")
  let cs ← s.catalogue.components config
  let result ← BootLink.Build.run config cs s.launcher r.program r.mode
  result.warnings.forM fun w => Task.record (.err ("Warning: " ++ w))
  (closing result).forM fun line => Task.record (.out line)
  return 0

/-- The command. -/
def main (s : Setting) (args : List String) : Task Outcome :=
  runOn "rosbuild" specs .help .version args request fun r =>
    finish "Build" r.verbose (perform s r)

end BootLink.Command.Build
