/-
# `BootLink.Command.Run` — the command `rosrun`

    rosrun [EXAMPLE] [--root DIR] [--build-dir DIR] [--qemu PROGRAM] [--version] [--help]

Boots the image of a program in an emulator. The image must have been built.
-/
import BootLink.Command.Settings

namespace BootLink.Command.Run

/-- The options. -/
inductive Key
  | root | buildDir | qemu | version | help
  deriving DecidableEq, Repr

/-- Their names. -/
def specs : List (OptionSpec Key) := [
  { names := ["--root"], key := .root, takesValue := true },
  { names := ["--build-dir"], key := .buildDir, takesValue := true },
  { names := ["--qemu"], key := .qemu, takesValue := true },
  { names := ["--version"], key := .version },
  { names := ["--help"], key := .help }]

/-- The emulator that is used if none is named. -/
def defaultEmulator : String := "qemu-system-x86_64"

/-- The command line that boots an image. -/
def emulatorCommand (emulator : String) (image : Path) : List String :=
  [emulator, "-drive", "file=" ++ image.text ++ ",format=raw,if=floppy"]

/-- What the command was asked to do. -/
structure Request where
  program : String
  root : Option Path
  buildDir : Option Path
  emulator : String

/-- Reads what the command was asked to do. -/
def request (s : Store) (items : List (Item Key)) : Checked Request := do
  let root := readSetting items .root (existingDirectory s)
  let buildDir := readSetting items .buildDir (directoryPath s)
  checkSettings items fun
    | .root => root.refusal?
    | .buildDir => buildDir.refusal?
    | _ => none
  return {
    program := ← oneArgument Config.defaultExample (plainArguments items)
    root := ← root
    buildDir := ← buildDir
    emulator := (setting? items .qemu).getD defaultEmulator }

/-- The configuration with what the request overrides. -/
def configure (r : Request) (c : Config) : Config :=
  { c with root := r.root.getD c.root, buildDir := r.buildDir.getD c.buildDir }

/-- Does what was asked. Here a limit in the environment that is no number is unforeseen. -/
def perform (s : Setting) (r : Request) : Task Nat := do
  let config ← Task.ofExcept <|
    (Config.ofEnvironment s.here s.environment).mapError (.broken .badValue ·.message)
  let image := (configure r config).outputDir.child (r.program ++ ".img")
  if !(← Task.isFile image) then
    Task.record (.err ("Please build first with: rosbuild " ++ r.program))
    throw (.sourceNotFound image "image")
  Task.record (.out ("Running RomanOS example: " ++ r.program))
  Task.record (.out "================================")
  let status ← Task.launch s.launcher
    { command := emulatorCommand r.emulator image, limit := .unstated }
  return if status = 0 then 0 else 1

/-- The command. -/
def main (s : Setting) (args : List String) : Task Outcome :=
  runOn "rosrun" specs .help .version args request fun r => finish "Run" false (perform s r)

end BootLink.Command.Run
