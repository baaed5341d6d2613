/-
# `BootLink.Build` — from source text to a floppy image

A build reads and assembles a program, links the libraries behind it, has a backend write assembly
text, has the external assembler turn that into a flat binary, and packages the binary. The steps
run in this order and the first failure ends the build, so no image is written after one. A library
that is missing, unless libraries are required, or that does not assemble, is left out.
-/
import BootLink.Backend
import BootLink.BootImage
import BootLink.Config

namespace BootLink

/-- What a successful build made. -/
structure BuildResult where
  name : String
  mode : Mode
  program : Program
  artifacts : Artifacts
  binary : Path
  imagePath : Path
  image : BootImage
  warnings : List String

namespace Build

/-- Reads and assembles one source file. A unit without a name gets that of the file. -/
def assembleFile (assembler : Component) (path : Path) (role : String) : Task Program := do
  if !(← Task.isFile path) then throw (.sourceNotFound path role)
  let source ← Task.readText path
  let assemble ← Task.ofExcept assembler.assemble
  modify fun w => { w with units := w.units ++ [(path.text, source)] }
  let result ← Task.ofExcept (assemble source path.text)
  match result.success? with
  | none =>
    let found := if result.diagnostics.isEmpty then [⟨0, "assembler produced no module", ""⟩]
      else result.diagnostics
    throw (.ofDiagnostics path.name found)
  | some p => return if p.name = unnamed then { p with name := path.name } else p

/-- Reads and assembles the program itself. -/
def assemblePrimary (config : Config) (cs : Components) (name : String) : Task Program := do
  let path := config.sourcePath name
  Task.info ("Reading source: " ++ path.text)
  Task.info "Assembling Romasm..."
  let assembler ← Task.ofExcept cs.requireAssembler
  let p ← assembleFile assembler path "source"
  Task.info ("✓ Assembled " ++ toString p.layout.code ++ " instructions")
  Task.info ("✓ Found " ++ toString p.labels.size ++ " labels")
  return p

/-- What is said of a library that does not assemble. -/
def skippedLibrary (path : Path) : String :=
  "library " ++ path.name ++ " failed to assemble; linking without it"

/-- Reads and assembles one library: its program, or nothing and perhaps a warning. -/
def assembleLibrary (config : Config) (assembler : Component) (path : Path) :
    Task (Option Program × Option String) := do
  if !(← Task.isFile path) then
    if config.librariesRequired then throw (.sourceNotFound path "library")
    Task.debug ("  No library at " ++ path.text ++ ", skipping")
    return (none, none)
  Task.info ("  Loading library " ++ path.name ++ "...")
  match ← Task.attempt (assembleFile assembler path "library") with
  | .error (.assembly _ diagnostics) =>
    Task.warn (skippedLibrary path)
    diagnostics.forM fun d => Task.warn ("  " ++ d.text)
    return (none, some (skippedLibrary path))
  | .error failure => throw failure
  | .ok p =>
    Task.info ("  ✓ Loaded " ++ path.name ++ " (" ++ toString p.layout.code ++ " instructions)")
    return (some p, none)

/-- Reads and assembles the libraries that there are: their programs, and the warnings. -/
def assembleLibraries (config : Config) (cs : Components) :
    Task (List Program × List String) := do
  let assembler ← Task.ofExcept cs.requireAssembler
  let found ← config.libraryPaths.mapM (assembleLibrary config assembler)
  return (found.filterMap (·.1), found.filterMap (·.2))

/-- One merge of a link, reported when it is done. -/
def mergeReported (primary library : Program) : Task Program := do
  let merged ← Task.ofExcept ((primary.merge library).mapError .relocation)
  Task.debug (primary.mergeNote library)
  return merged

/-- Links programs, each merge being reported. -/
def linkReported (programs : List Program) : Task Program :=
  Program.linkWith mergeReported (throw (.relocation .nothingToLink)) programs

/-- Finds the external assembler and has it make the binary. -/
def makeBinary (config : Config) (run : Launcher) (artifacts : Artifacts) (binary : Path) :
    Task Unit := do
  Task.info "Assembling with NASM..."
  let executable ← Toolchain.probe run config.probeLimit config.candidates
  let _ ← Toolchain.assemble run config.assemblyLimit executable artifacts.assembly binary
  Task.info ("✓ Assembled to: " ++ binary.text)

/-- Makes an image of a binary and reports one that is cut. -/
def makeImage (raw : ByteArray) : Task BootImage := do
  let image := BootImage.ofBinary raw
  if image.truncated then Task.warn (BootImage.truncationNote raw.size)
  return image

/-- Writes an image. -/
def writeImage (image : BootImage) (path : Path) : Task Unit := do
  Task.writeBytes path image.data
  Task.debug ("Wrote boot image " ++ path.text ++ " (" ++ toString image.data.size ++ " bytes)")

/-- What is said of a binary that is longer than the boot sector. -/
def cutBinary (size : Int) : String :=
  "boot sector is " ++ toString size ++ " bytes; only the first 512 were written to the image"

/-- Packages the binary: the image, and perhaps a warning. -/
def packageImage (binary imagePath : Path) : Task (BootImage × Option String) := do
  Task.info "Creating bootable image..."
  let image ← makeImage (← Task.readBytes binary)
  writeImage image imagePath
  Task.info ("✓ Created bootable image: " ++ imagePath.text)
  return (image, if image.truncated then some (cutBinary image.bootCodeSize) else none)

/-- Builds a program. -/
def run (config : Config) (cs : Components) (launcher : Launcher) (name : String) (mode : Mode) :
    Task BuildResult := do
  Task.info ("Build mode: " ++ mode.title)
  let primary ← assemblePrimary config cs name
  let (libraries, skipped) ← assembleLibraries config cs
  Task.info "Linking with standard library..."
  let program ← linkReported (primary :: libraries)
  let dir := config.outputDir
  Task.makeDirectories dir
  let template := if mode = .vm then some config.templatePath else none
  let artifacts ← Backend.dispatch program mode cs dir name template
  let binary := dir.child (name ++ ".bin")
  makeBinary config launcher artifacts binary
  let imagePath := dir.child (name ++ ".img")
  let (image, cut) ← packageImage binary imagePath
  return { name, mode, program, artifacts, binary, imagePath, image
           warnings := skipped ++ cut.toList }

end Build

end BootLink
