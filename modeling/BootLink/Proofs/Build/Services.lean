/-
# `BootLink.Proofs.Build.Services` — when a service fails during a build

A build asks four services: the assembler for the program and for each library, and then the native
generator and the optimizer, or the bytecode generator.  `Raises` says that a build gets as far as
asking one of them, and that it fails.

What leaves the build is told by `Call.surface`.  The failures of the generators and the optimizer
come out as build failures, whatever they were.  Those of the assembler come out as they are: only
a library that does not assemble is left out, and a failure that the tools do not foresee stays
unforeseen (`run_of_raises`, `assembler_failure_escapes`).
-/
import BootLink.Proofs.Backend.Texts
import BootLink.Proofs.Build.Stages
import BootLink.Proofs.Command.Report

namespace BootLink.Build

open BootLink.Task

/-- What a build asks a service for. -/
inductive Call
  | primary
  | library (path : Path)
  | bootSector
  | optimized
  | bytecode
  deriving DecidableEq

namespace Call

/-- Whether it is the assembler that is asked. -/
def ofAssembler : Call → Bool
  | primary | library _ => true
  | bootSector | optimized | bytecode => false

/-- What leaves the build when the call fails; nothing if the build goes on. -/
def surface : Call → Failure → Option Failure
  | library _, .assembly .. => none
  | primary, f | library _, f => some f
  | bootSector, f => some (.ofComponent "x86 generator" f)
  | optimized, f => some (.ofComponent "optimizer" f)
  | bytecode, f => some (.ofComponent "bytecode generator" f)

end Call

section
variable (config : Config) (cs : Components) (name : String) (s : Store)

/-- The assembler is asked for the unit of a path and fails. -/
structure AssemblerRaises (assembler : Component) (path : Path) (f : Failure) : Prop where
  there : cs.requireAssembler = .ok assembler
  offered : ∃ assemble source, assembler.assemble = .ok assemble ∧
    Finds s (readText path) (.ok source) ∧ assemble source path.text = .error f

/-- A backend is reached with the program, the output directory made and the layout reported. -/
structure BackendReached (mode : Mode) (p : Program) (t : Store) : Prop where
  gathered : ∃ skipped, Finds s (gather config cs name mode) (.ok (p, skipped))
  made : Ends s (makeDirectories config.outputDir) (.ok ⟨⟩) t
  reported : Finds t (Backend.reportLayout p) (.ok ⟨⟩)

/-- A build that starts in files `s` makes the call, and the service fails with `f`. -/
inductive Raises : Mode → Call → Failure → Prop
  | primary {mode : Mode} {assembler : Component} {f : Failure}
      (raised : AssemblerRaises cs s assembler (config.sourcePath name) f) :
      Raises mode .primary f
  | library {mode : Mode} {assembler : Component} {p : Program} {path : Path}
      {before after : List Path} {found : List (Option Program × Option String)} {f : Failure}
      (assembled : Finds s (assemblePrimary config cs name) (.ok p))
      (paths : config.libraryPaths = before ++ path :: after)
      (earlier : Finds s (before.mapM (assembleLibrary config assembler)) (.ok found))
      (raised : AssemblerRaises cs s assembler path f) :
      Raises mode (.library path) f
  | bootSector {native : Component} {p : Program} {t : Store} {f : Failure}
      {generate : List Instruction → List DataItem → Table String Int → Except Failure String}
      (reached : BackendReached config cs name s .native p t)
      (there : cs.requireNative = .ok native)
      (offered : native.generateBootSector = .ok generate)
      (raised : generate p.instructions p.data p.labels = .error f) :
      Raises .native .bootSector f
  | optimized {native : Component} {p : Program} {t : Store} {text : String} {f : Failure}
      {generate : List Instruction → List DataItem → Table String Int → Except Failure String}
      {optimize : Optimizer}
      (reached : BackendReached config cs name s .native p t)
      (there : cs.requireNative = .ok native)
      (offered : native.generateBootSector = .ok generate)
      (generated : generate p.instructions p.data p.labels = .ok text)
      (optimizes : cs.optimizer.optimize = .ok optimize)
      (raised : optimize text = .error f) :
      Raises .native .optimized f
  | bytecode {p : Program} {t : Store} {generate : BytecodeGenerator} {f : Failure}
      (reached : BackendReached config cs name s .vm p t)
      (template : Finds t (isFile config.templatePath) (.ok true))
      (offered : cs.bytecode.generate = .ok generate)
      (raised : generate p = .error f) :
      Raises .vm .bytecode f

end

section
variable {config : Config} {cs : Components} {launcher : Launcher} {name role : String}
  {mode : Mode} {s t : Store} {path : Path} {assembler : Component} {call : Call} {f e : Failure}
  {p : Program}

/-! ## The assembler -/

theorem finds_assembleFile_of_raises (raised : AssemblerRaises cs s assembler path f) :
    Finds s (assembleFile assembler path role) (.error f) := by
  obtain ⟨assemble, source, offered, read, failed⟩ := raised.offered
  have found : Finds s (assembleFile assembler path role) _ := finds_assembleFile offered read
  rwa [failed] at found

theorem finds_assemblePrimary_of_raises
    (raised : AssemblerRaises cs s assembler (config.sourcePath name) f) :
    Finds s (assemblePrimary config cs name) (.error f) := by
  unfold assemblePrimary
  rw [raised.there]
  refine (finds_info _).bind ((finds_info _).bind ((finds_ofExcept _).bind ?_))
  exact (finds_assembleFile_of_raises raised).bind_error _

/-- What is found for a library for which the assembler fails. -/
theorem finds_assembleLibrary_of_raises (raised : AssemblerRaises cs s assembler path f) :
    Finds s (assembleLibrary config assembler path) (match (Call.library path).surface f with
      | some e => .error e
      | none => .ok (none, some (skippedLibrary path))) := by
  obtain ⟨_, _, _, read, _⟩ := raised.offered
  have found := finds_assembleLibrary config (finds_isFile_of_readText read)
    (finds_assembleFile_of_raises raised)
  cases f with
  | assembly => exact found
  | _ => exact found

theorem finds_gather_of_raises_library {before after : List Path}
    {found : List (Option Program × Option String)}
    (assembled : Finds s (assemblePrimary config cs name) (.ok p))
    (paths : config.libraryPaths = before ++ path :: after)
    (earlier : Finds s (before.mapM (assembleLibrary config assembler)) (.ok found))
    (raised : AssemblerRaises cs s assembler path f)
    (surface : (Call.library path).surface f = some e) :
    Finds s (gather config cs name mode) (.error e) := by
  have failed : Finds s (assembleLibrary config assembler path) _ :=
    finds_assembleLibrary_of_raises raised
  rw [surface] at failed
  unfold gather assembleLibraries
  rw [raised.there, paths]
  refine (finds_info _).bind (assembled.bind (Ends.bind_error ?_ _))
  exact (finds_ofExcept _).bind ((ends_mapM_of_error earlier failed).bind_error _)

/-! ## The backends -/

section
variable {native : Component} {text : String}
  {generate : List Instruction → List DataItem → Table String Int → Except Failure String}

theorem finds_nativeText_of_generator (there : cs.requireNative = .ok native)
    (offered : native.generateBootSector = .ok generate)
    (raised : generate p.instructions p.data p.labels = .error f) :
    Finds s (Backend.nativeText p cs) (.error (.ofComponent "x86 generator" f)) := by
  unfold Backend.nativeText Backend.ask
  rw [there]
  refine (finds_ofExcept _).bind ((finds_info _).bind ?_)
  rw [offered]
  refine (finds_ofExcept _).bind (Ends.bind_error ?_ _)
  rw [raised]
  exact finds_ofExcept _

theorem finds_nativeText_of_optimizer {optimize : Optimizer}
    (there : cs.requireNative = .ok native) (offered : native.generateBootSector = .ok generate)
    (generated : generate p.instructions p.data p.labels = .ok text)
    (optimizes : cs.optimizer.optimize = .ok optimize) (raised : optimize text = .error f) :
    Finds s (Backend.nativeText p cs) (.error (.ofComponent "optimizer" f)) := by
  unfold Backend.nativeText Backend.ask
  rw [there]
  refine (finds_ofExcept _).bind ((finds_info _).bind ?_)
  rw [offered]
  refine (finds_ofExcept _).bind ?_
  rw [generated, optimizes]
  refine (finds_ofExcept _).bind ((finds_info _).bind ((finds_ofExcept _).bind ?_))
  rw [raised]
  exact finds_ofExcept _

theorem finds_generateBytecode_of_raises {generate : BytecodeGenerator}
    (offered : cs.bytecode.generate = .ok generate) (raised : generate p = .error f) :
    Finds s (Backend.generateBytecode p cs) (.error (.ofComponent "bytecode generator" f)) := by
  unfold Backend.generateBytecode Backend.ask
  rw [offered]
  refine (finds_ofExcept _).bind (Ends.bind_error ?_ _)
  rw [raised]
  exact finds_ofExcept _

end

/-! ## The build -/

theorem ends_run_of_gather (failed : Finds s (gather config cs name mode) (.error e)) :
    Ends s (run config cs launcher name mode) (.error e) s := by
  rw [run_eq]
  exact (failed.bind_error _).bind_error _

theorem ends_run_of_dispatch (reached : BackendReached config cs name s mode p t)
    (failed : Finds t (Backend.dispatch p mode cs config.outputDir name
      (if mode = .vm then some config.templatePath else none)) (.error e)) :
    Ends s (run config cs launcher name mode) (.error e) t := by
  obtain ⟨skipped, gathered⟩ := reached.gathered
  rw [run_eq]
  refine Ends.bind_error (gathered.bind (Ends.bind_error ?_ _)) _
  exact reached.made.bind failed

theorem run_of_raises (h : Raises config cs name s mode call f)
    (surface : call.surface f = some e) :
    ∃ t, Ends s (run config cs launcher name mode) (.error e) t := by
  cases h with
  | primary raised =>
      obtain rfl := Option.some.inj surface
      refine ⟨s, ends_run_of_gather ((finds_info _).bind (Ends.bind_error ?_ _))⟩
      exact finds_assemblePrimary_of_raises raised
  | library assembled paths earlier raised =>
      exact ⟨s, ends_run_of_gather
        (finds_gather_of_raises_library assembled paths earlier raised surface)⟩
  | bootSector reached there offered raised =>
      obtain rfl := Option.some.inj surface
      refine ⟨_, ends_run_of_dispatch reached (reached.reported.bind ?_)⟩
      dsimp only
      rw [Backend.generateNative_eq]
      exact Ends.bind_error (finds_nativeText_of_generator there offered raised) _
  | optimized reached there offered generated optimizes raised =>
      obtain rfl := Option.some.inj surface
      refine ⟨_, ends_run_of_dispatch reached (reached.reported.bind ?_)⟩
      dsimp only
      rw [Backend.generateNative_eq]
      refine Ends.bind_error ?_ _
      exact finds_nativeText_of_optimizer there offered generated optimizes raised
  | bytecode reached template offered raised =>
      obtain rfl := Option.some.inj surface
      refine ⟨_, ends_run_of_dispatch reached (reached.reported.bind ?_)⟩
      rw [if_pos rfl]
      show Finds _ (Backend.generateVm _ _ _ _ _) _
      rw [Backend.generateVm_eq]
      refine Ends.bind_error (Ends.bind_error ?_ _) _
      refine template.bind ((finds_info _).bind ?_)
      exact finds_generateBytecode_of_raises offered raised

/-! ## What leaves a build -/

/-- Which failures of services come out as build failures. -/
theorem Call.isBuildFailure_iff (surface : call.surface f = some e) :
    e.isBuildFailure = true ↔ call.ofAssembler = false ∨ f.isBuildFailure = true := by
  have told (what : String) : (Failure.ofComponent what f).isBuildFailure = true := by
    unfold Failure.ofComponent
    split
    · assumption
    · rfl
  cases call with
  | primary =>
      obtain rfl := Option.some.inj surface
      simp [Call.ofAssembler]
  | library path =>
      cases f with
      | assembly unit diagnostics => exact nomatch surface
      | _ => obtain rfl := Option.some.inj surface; simp [Call.ofAssembler]
  | bootSector | optimized | bytecode =>
      obtain rfl := Option.some.inj surface
      exact iff_of_true (told _) (Or.inl rfl)

/-- **When a service fails.**  The build ends at once, except that a library that does not assemble
is left out.  What leaves it is a build failure, and so never an internal error, just when it is
not the assembler that failed or when its failure is one that the tools foresee. -/
theorem service_failure_surfaces (h : Raises config cs name s mode call f) :
    (∀ e, call.surface f = some e →
      (∃ t, Ends s (run config cs launcher name mode) (.error e) t) ∧
      (e.isBuildFailure = true ↔ call.ofAssembler = false ∨ f.isBuildFailure = true) ∧
      (e.isBuildFailure = true → ∀ stage verbose, (Command.report stage verbose e).2 ≠ 3)) ∧
    (call.surface f = none →
      ∃ path assembler, call = .library path ∧ cs.requireAssembler = .ok assembler ∧
        Finds s (assembleLibrary config assembler path)
          (.ok (none, some (skippedLibrary path)))) := by
  refine ⟨fun e surface => ⟨run_of_raises h surface, Call.isBuildFailure_iff surface,
    Command.report_ne_internal⟩, fun absorbed => ?_⟩
  cases h with
  | library assembled paths earlier raised =>
      have left_out : Finds s (assembleLibrary config _ _) _ :=
        finds_assembleLibrary_of_raises raised
      rw [absorbed] at left_out
      exact ⟨_, _, rfl, raised.there, left_out⟩
  | primary | bootSector | optimized | bytecode => exact nomatch absorbed

end

/-! ## An assembler that breaks -/

namespace Sample

/-- What the assembler fails with. -/
def boom : Failure := .broken .runtime "boom"

/-- An assembler that always fails. -/
def brokenAssembler : Component :=
  { shape := .service, assembler := some fun _ _ => .error boom }

/-- The components with that assembler. -/
def brokenComponents : Components := { assembler := some brokenAssembler, native := some tools }

theorem raises : Raises config brokenComponents "hello" store .native .primary boom :=
  have raised :
      AssemblerRaises brokenComponents store brokenAssembler (config.sourcePath "hello") boom :=
    ⟨rfl, _, _, rfl, finds_readText rfl rfl rfl, rfl⟩
  .primary raised

end Sample

/-- The theorem applies to the assembler that always fails. -/
theorem broken_assembler_surfaces :
    Raises Sample.config Sample.brokenComponents "hello" Sample.store .native .primary Sample.boom ∧
    ∃ t, Ends Sample.store (run Sample.config Sample.brokenComponents Sample.idle "hello" .native)
      (.error Sample.boom) t :=
  ⟨Sample.raises, ((service_failure_surfaces Sample.raises).1 _ rfl).1⟩

/-- Its failure escapes: it leaves the build as it is, is no build failure, and is reported as an
internal error. -/
theorem assembler_failure_escapes :
    Raises Sample.config Sample.brokenComponents "hello" Sample.store .native .primary Sample.boom ∧
    ((run Sample.config Sample.brokenComponents Sample.idle "hello" .native).runIn
      { store := Sample.store }).1 = .error Sample.boom ∧
    Sample.boom.isBuildFailure = false ∧
    (Command.report (some "Build") false Sample.boom).2 = 3 :=
  ⟨Sample.raises, rfl, rfl, rfl⟩

end BootLink.Build
