/-
# `BootLink.Proofs.Build.Stages` — a build in three stages

    gather      reads, assembles and links: looks at files and writes none
    generate    makes the output directory and has the backend write assembly text
    lower       gather and generate: all that comes before the external assembler
    prepare     gather, generate, then the external assembler: all that comes before the image

`run_eq` and `run_eq_lower` put them together again.  Only the first stage reads what a build is
given, apart from the boot loader's text, so `looks_gather` says when two file systems give the same
program: where the directories are the same and no source file differs.
-/
import BootLink.Build
import BootLink.Proofs.World.Looks

namespace BootLink

/-- The file that a build writes under a suffix. -/
def Config.output (c : Config) (name suffix : String) : Path := c.outputDir.child (name ++ suffix)

namespace Build

/-- Reads, assembles and links: the program, and the warnings so far. -/
def gather (config : Config) (cs : Components) (name : String) (mode : Mode) :
    Task (Program × List String) := do
  Task.info ("Build mode: " ++ mode.title)
  let primary ← assemblePrimary config cs name
  let (libraries, skipped) ← assembleLibraries config cs
  Task.info "Linking with standard library..."
  let program ← linkReported (primary :: libraries)
  return (program, skipped)

/-- Makes the output directory and has the backend write into it. -/
def generate (config : Config) (cs : Components) (name : String) (mode : Mode) (p : Program) :
    Task Artifacts := do
  Task.makeDirectories config.outputDir
  Backend.dispatch p mode cs config.outputDir name
    (if mode = .vm then some config.templatePath else none)

/-- All that comes before the image. -/
def prepare (config : Config) (cs : Components) (launcher : Launcher) (name : String)
    (mode : Mode) : Task (Program × List String × Artifacts) := do
  let (program, skipped) ← gather config cs name mode
  let artifacts ← generate config cs name mode program
  makeBinary config launcher artifacts (config.output name ".bin")
  return (program, skipped, artifacts)

/-- A build prepares the binary and packages it. -/
theorem run_eq (config : Config) (cs : Components) (launcher : Launcher) (name : String)
    (mode : Mode) :
    run config cs launcher name mode = do
      let (program, skipped, artifacts) ← prepare config cs launcher name mode
      let (image, cut) ← packageImage (config.output name ".bin") (config.output name ".img")
      return { name, mode, program, artifacts, binary := config.output name ".bin"
               imagePath := config.output name ".img", image
               warnings := skipped ++ cut.toList } := by
  simp only [run, prepare, gather, generate, Config.output, bind_assoc, pure_bind]

/-- All that a build does before it looks for the assembler. -/
def lower (config : Config) (cs : Components) (name : String) (mode : Mode) :
    Task (Program × List String × Artifacts) := do
  let (program, skipped) ← gather config cs name mode
  let artifacts ← generate config cs name mode program
  return (program, skipped, artifacts)

theorem run_eq_lower (config : Config) (cs : Components) (launcher : Launcher) (name : String)
    (mode : Mode) :
    run config cs launcher name mode = do
      let (program, skipped, artifacts) ← lower config cs name mode
      makeBinary config launcher artifacts (config.output name ".bin")
      let (image, cut) ← packageImage (config.output name ".bin") (config.output name ".img")
      return { name, mode, program, artifacts, binary := config.output name ".bin"
               imagePath := config.output name ".img", image
               warnings := skipped ++ cut.toList } := by
  simp only [run_eq, prepare, lower, bind_assoc, pure_bind]

/-! ## One unit -/

/-- A unit that is given a name. -/
def named (path : Path) (p : Program) : Program :=
  if p.name = unnamed then { p with name := path.name } else p

/-- What comes of an assembler's answer about a file. -/
def verdict (path : Path) (result : AssemblyResult) : Except Failure Program :=
  match result.success? with
  | some p => .ok (named path p)
  | none => .error (.ofDiagnostics path.name
      (if result.diagnostics.isEmpty then [⟨0, "assembler produced no module", ""⟩]
        else result.diagnostics))

/-- What comes of a library, from what comes of its file: one that does not assemble is left out. -/
def leftOut (path : Path) : Except Failure Program → Except Failure (Option Program × Option String)
  | .ok p => .ok (some p, none)
  | .error (.assembly ..) => .ok (none, some (skippedLibrary path))
  | .error e => .error e

/-! ## Gathering only looks -/

section
open BootLink.Task

variable {config : Config} {cs : Components} {name role : String} {mode : Mode} {s t : Store}
  {assembler : Component} {path : Path}

theorem looks_assembleFile (tree : s.SameTree t) (agree : Store.AgreeAt path s t) :
    Looks s t (assembleFile assembler path role) := by
  unfold assembleFile
  refine (looks_isFile tree agree).bind fun there found => ?_
  cases there with
  | false => exact looks_throw_bind _ _
  | true =>
      obtain ⟨_, content, read⟩ := read_of_finds_isFile found
      refine (looks_readText (read.trans ((agree.read_eq_ok_iff tree).1 read).symm)).next
        fun source => (looks_ofExcept _).next fun assemble => ?_
      refine Looks.next (looks_modify ?_) fun _ => (looks_ofExcept _).next fun result => ?_
      · exact fun _ => rfl
      · split
        · exact looks_throw _
        · exact looks_pure _

/-- A text that can be read is assembled. -/
theorem finds_assembleFile {assemble : Assembler} {source : String}
    (offered : assembler.assemble = .ok assemble) (read : Finds s (readText path) (.ok source)) :
    Finds s (assembleFile assembler path role)
      ((assemble source path.text).bind (verdict path)) := by
  unfold assembleFile
  refine (finds_isFile_of_readText read).bind (read.bind ?_)
  rw [offered]
  refine (finds_ofExcept _).bind (Ends.bind (finds_modify ?_) ?_)
  · exact fun _ => rfl
  · cases assemble source path.text with
    | error e => exact (finds_ofExcept _).bind_error _
    | ok result =>
        refine (finds_ofExcept _).bind ?_
        rw [Except.bind, verdict]
        cases result.success? with
        | none => exact finds_throw _
        | some p => exact finds_pure _

theorem looks_assemblePrimary (tree : s.SameTree t)
    (agree : Store.AgreeAt (config.sourcePath name) s t) :
    Looks s t (assemblePrimary config cs name) := by
  unfold assemblePrimary
  refine (looks_info _).next fun _ => (looks_info _).next fun _ =>
    (looks_ofExcept _).next fun assembler => (looks_assembleFile tree agree).next fun p => ?_
  exact (looks_info _).next fun _ => (looks_info _).next fun _ => looks_pure _

theorem looks_assembleLibrary (tree : s.SameTree t) (agree : Store.AgreeAt path s t) :
    Looks s t (assembleLibrary config assembler path) := by
  unfold assembleLibrary
  refine (looks_isFile tree agree).next fun there => ?_
  split
  · dsimp only
    split
    · exact looks_throw_bind _ _
    · exact (looks_debug _).next fun _ => looks_pure _
  · refine (looks_info _).next fun _ => (looks_assembleFile tree agree).attempt.next fun r => ?_
    split
    · exact (looks_warn _).next fun _ =>
        (looks_forM fun _ _ => looks_warn _).next fun _ => looks_pure _
    · exact looks_throw _
    · exact (looks_info _).next fun _ => looks_pure _

/-- A library that is there is assembled. -/
theorem finds_assembleLibrary (config : Config) {r : Except Failure Program}
    (there : Finds s (isFile path) (.ok true))
    (came : Finds s (assembleFile assembler path "library") r) :
    Finds s (assembleLibrary config assembler path) (leftOut path r) := by
  unfold assembleLibrary
  refine there.bind ((finds_info _).bind (came.attempt.bind ?_))
  cases r with
  | ok p => exact (finds_info _).bind (finds_pure _)
  | error e =>
      -- only a failure to assemble is handled
      cases e with
      | assembly unit diagnostics =>
          refine (finds_warn _).bind (Ends.bind (a := ⟨⟩) ?_ (finds_pure _))
          exact ends_forM (fun d => finds_warn _) diagnostics
      | _ => exact finds_throw _

theorem looks_assembleLibraries (tree : s.SameTree t)
    (agree : ∀ path ∈ config.libraryPaths, Store.AgreeAt path s t) :
    Looks s t (assembleLibraries config cs) := by
  unfold assembleLibraries
  exact (looks_ofExcept _).next fun assembler =>
    (looks_mapM fun path h => looks_assembleLibrary tree (agree path h)).next fun _ => looks_pure _

/-- What is reported of the merges does not change what they come to. -/
theorem finds_linkReported (programs : List Program) :
    Finds s (linkReported programs) ((Program.link programs).mapError .relocation) := by
  cases programs with
  | nil => exact finds_throw _
  | cons first rest =>
      have folds (library : Program) : Finds s (rest.foldlM mergeReported library)
          ((rest.foldlM Program.merge library).mapError .relocation) := by
        induction rest generalizing library with
        | nil => exact finds_pure _
        | cons next rest ih =>
            rw [List.foldlM_cons, List.foldlM_cons]
            cases merged : library.merge next with
            | error fault =>
                refine Ends.bind_error (Ends.bind_error ?_ _) _
                rw [merged]
                exact finds_ofExcept _
            | ok p =>
                refine Ends.bind ?_ (ih p)
                unfold mergeReported
                rw [merged]
                exact (finds_ofExcept _).bind ((finds_debug _).bind (finds_pure _))
      exact folds first.asLinked

theorem looks_linkReported (programs : List Program) : Looks s t (linkReported programs) :=
  ⟨_, finds_linkReported programs, finds_linkReported programs⟩

/-- **Where the directories are the same and no source file differs, the program is the same.** -/
theorem looks_gather (tree : s.SameTree t)
    (source : Store.AgreeAt (config.sourcePath name) s t)
    (libraries : ∀ path ∈ config.libraryPaths, Store.AgreeAt path s t) :
    Looks s t (gather config cs name mode) := by
  unfold gather
  refine (looks_info _).next fun _ => (looks_assemblePrimary tree source).next fun primary =>
    (looks_assembleLibraries tree libraries).next fun found => (looks_info _).next fun _ => ?_
  exact (looks_linkReported _).next fun _ => looks_pure _

/-! ## Packaging -/

theorem finds_makeImage (raw : ByteArray) :
    Finds s (makeImage raw) (.ok (BootImage.ofBinary raw)) := by
  unfold makeImage
  dsimp only
  split
  · exact (finds_warn _).bind (finds_pure _)
  · exact finds_pure _

/-- What a build says of an image, if that is cut. -/
def cutWarning? (image : BootImage) : Option String :=
  if image.truncated then some (cutBinary image.bootCodeSize) else none

/-- A binary that cannot be read is not packaged. -/
theorem finds_packageImage_of_read {binary image : Path} {e : Failure}
    (failed : Finds s (readBytes binary) (.error e)) :
    Finds s (packageImage binary image) (.error e) :=
  (finds_info _).bind (failed.bind_error _)

/-- A binary that can be read is packaged if its image can be written. -/
theorem ends_packageImage_of_write {binary image : Path} {raw : ByteArray} {r : Except Failure Unit}
    (read : Finds s (readBytes binary) (.ok raw))
    (written : Ends s (writeBytes image (BootImage.ofBinary raw).data) r t) :
    Ends s (packageImage binary image)
      (r.map fun _ => (BootImage.ofBinary raw, cutWarning? (BootImage.ofBinary raw))) t := by
  refine (finds_info _).bind (read.bind ((finds_makeImage raw).bind ?_))
  cases r with
  | error e => exact (written.bind_error _).bind_error _
  | ok _ => exact (written.bind (finds_debug _)).bind ((finds_info _).bind (finds_pure _))

end

end Build

/-! ## A small project -/

namespace Build.Sample

/-- A project at the root. -/
def config : Config := { root := { anchor := .root, parts := [] } }

/-- Its files: one program, and an output directory. -/
def store : Store where
  entries := ⟨[(["examples"], .directory), (["examples", "hello.romasm"], .file ⟨#[]⟩),
    (["build"], .directory)], by decide⟩

/-- An assembler and a generator that find nothing to do. -/
def tools : Component where
  shape := .service
  assembler := some fun _ _ => .ok { program := some {} }
  native := some { bootSector := fun _ _ _ => .ok "", assembly := fun _ _ => .ok "" }

/-- The components of the project. -/
def components : Components := { assembler := some tools, native := some tools }

/-- Programs that end well and do nothing. -/
def idle : Launcher := fun _ s _ => (.ok 0, s)

end Build.Sample

end BootLink
