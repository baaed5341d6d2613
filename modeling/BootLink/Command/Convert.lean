/-
# `BootLink.Command.Convert` — the command `rosconv`

    rosconv INPUT OUTPUT [--16bit | --32bit] [--assembler NAME] [--generator NAME]
            [--optimizer NAME] [-v] [--version] [--help]

Turns one source file into assembly text, without libraries and without an image. For sixteen bits,
which is the default, a boot sector goes into a second file beside the first.
-/
import BootLink.Build
import BootLink.Command.Settings

namespace BootLink.Command.Convert

/-- The options. -/
inductive Key
  | bits16 | bits32 | assembler | generator | optimizer | verbose | version | help
  deriving DecidableEq, Repr

/-- Their names. -/
def specs : List (OptionSpec Key) := [
  { names := ["--16bit"], key := .bits16 },
  { names := ["--32bit"], key := .bits32 },
  { names := ["--assembler"], key := .assembler, takesValue := true },
  { names := ["--generator"], key := .generator, takesValue := true },
  { names := ["--optimizer"], key := .optimizer, takesValue := true },
  { names := ["-v", "--verbose"], key := .verbose },
  { names := ["--version"], key := .version },
  { names := ["--help"], key := .help }]

/-- What the command was asked to do. -/
structure Request where
  input : Path
  output : Path
  width : Width
  components : ComponentNames
  verbose : Bool

/-- The width; the last option counts. -/
def widthOf (items : List (Item Key)) : Width :=
  let chosen := items.filterMap fun
    | .flag .bits16 => some Width.bits16
    | .flag .bits32 => some Width.bits32
    | _ => none
  chosen.getLast?.getD .bits16

/-- Reads what the command was asked to do. -/
def request (s : Store) (items : List (Item Key)) : Checked Request := do
  let (input, rest) ← nextArgument (plainArguments items)
  let input ← existingFile s input
  let (output, rest) ← nextArgument rest
  let output ← filePath s output
  noArguments rest
  return {
    input, output
    width := widthOf items
    components := ⟨setting? items .assembler, setting? items .generator, setting? items .optimizer⟩
    verbose := hasFlag items .verbose }

/-- The width in words. -/
def widthName : Width → String
  | .bits16 => "16-bit"
  | .bits32 => "32-bit"

/-- The file for the boot sector, beside the output. -/
def bootSectorPath (output : Path) : Except Failure Path :=
  let suffix := if output.suffix = "" then ".asm" else output.suffix
  match output.withName? (output.stem ++ "_boot" ++ suffix) with
  | some p => .ok p
  | none => .error <| .broken .badValue <|
      "PosixPath(" ++ Text.quoted output.text ++ ") has an empty name"

/-- Writes the boot sector of a program beside the output. -/
def writeBootSector (native : Component) (p : Program) (output : Path) : Task Unit := do
  let path ← Task.ofExcept (bootSectorPath output)
  let generate ← Task.ofExcept native.generateBootSector
  let text ← Backend.ask "x86 generator" (generate p.instructions p.data p.labels)
  Task.writeText path text
  Task.record (.out ("Boot sector version written to: " ++ path.text))

/-- Does what was asked. -/
def perform (s : Setting) (r : Request) : Task Nat := do
  let config := r.components.apply (← environmentConfig s)
  let cs ← s.catalogue.components config
  Task.info "Assembling Romasm..."
  let assembler ← Task.ofExcept cs.requireAssembler
  let p ← Build.assembleFile assembler r.input "source"
  Task.info ("Assembled " ++ toString p.layout.code ++ " instructions")
  Task.info ("Found " ++ toString p.labels.size ++ " labels")
  Task.info ("Generating x86 " ++ widthName r.width ++ " assembly...")
  let native ← Task.ofExcept cs.requireNative
  let generate ← Task.ofExcept native.generateAssembly
  let text ← Backend.ask "x86 generator" (generate p.instructions r.width)
  Task.writeText r.output text
  Task.record (.out ("Output written to: " ++ r.output.text))
  if r.width = .bits16 then writeBootSector native p r.output
  return 0

/-- The command. -/
def main (s : Setting) (args : List String) : Task Outcome :=
  runOn "rosconv" specs .help .version args request fun r =>
    finish "Conversion" r.verbose (perform s r)

end BootLink.Command.Convert
