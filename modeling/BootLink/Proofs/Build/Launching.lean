/-
# `BootLink.Proofs.Build.Launching` — when a build launches programs

    lower       gathers and generates: all that a build does before it looks for the assembler
    Search      candidates that are asked for their versions, one after another
    Discipline  a search, and one run of the assembler if the search has found it

The command lines and the limits are written out here, whatever the search and the assembling make
them from.

`lower` has no launcher to ask, and launches nothing (`quiet_lower`).  `makeBinary` comes after it
and asks in the order of `Discipline` (`calls_makeBinary`).  So the files that every program meets
are those that `lower` has left, and the assembly text is among them.

Programs are assumed to leave the files alone while they are asked for a version.
-/
import BootLink.Proofs.Backend.Lowering
import BootLink.Proofs.Toolchain.Probing
import BootLink.Proofs.World.Launches

namespace BootLink

/-- A candidate is asked for its version, with its output discarded. -/
def Question.ofCandidate (limit : Option Seconds) (before : List Launch) (files : Store)
    (candidate : String) : Question where
  before := before
  files := files
  launch :=
    { command := [candidate, "--version"], limit := limit.elim .unlimited .seconds, quiet := true }

/-- Programs that are asked for their versions change no file. -/
def Launcher.AnswersOnly (run : Launcher) (limit : Option Seconds) : Prop :=
  ∀ before files candidate,
    ((Question.ofCandidate limit before files candidate).answer run).2 = files

/-! ## The search for the assembler -/

namespace Toolchain

open BootLink.Task

/-- Candidates are asked in order.  The search goes on as long as none of them decides it. -/
inductive Search (run : Launcher) (limit : Option Seconds) (files : Store) :
    List Launch → List String → List Question → Option String → Prop
  /-- There is nobody left to ask. -/
  | exhausted {before : List Launch} : Search run limit files before [] [] none
  /-- A failure that is not one of a launch ends the search. -/
  | broken {before : List Launch} {candidate : String} {rest : List String} {failure : Failure}
      (failed : ((Question.ofCandidate limit before files candidate).answer run).1 =
        .error failure)
      (foreign : failure.IsForeign) :
      Search run limit files before (candidate :: rest)
        [.ofCandidate limit before files candidate] none
  /-- The candidate cannot be used, and the next ones are asked. -/
  | passed {before : List Launch} {candidate : String} {rest : List String} {calls : List Question}
      {found : Option String}
      (undecided : ¬(Question.ofCandidate limit before files candidate).IsDecisive run)
      (next : Search run limit files
        (before ++ [(Question.ofCandidate limit before files candidate).launch]) rest calls found) :
      Search run limit files before (candidate :: rest)
        (.ofCandidate limit before files candidate :: calls) found
  /-- The candidate answers with status zero, and nobody else is asked. -/
  | found {before : List Launch} {candidate : String} {rest : List String}
      (answers : (Question.ofCandidate limit before files candidate).Succeeds run) :
      Search run limit files before (candidate :: rest)
        [.ofCandidate limit before files candidate] (some candidate)

variable {run : Launcher} {limit : Option Seconds} {files : Store} {before : List Launch}
  {candidates all : List String} {calls : List Question} {found : Option String}

theorem ofOption_eq_elim (limit : Option Seconds) :
    Limit.ofOption limit = limit.elim .unlimited .seconds := by
  cases limit <;> rfl

/-- The question is the one that a search asks. -/
theorem question_eq_ofCandidate (limit : Option Seconds) (w : World) (candidate : String) :
    question limit w candidate = .ofCandidate limit w.launches w.store candidate := by
  rw [question, versionQuery, ofOption_eq_elim]
  rfl

theorem Search.files_eq (h : Search run limit files before candidates calls found) :
    ∀ q ∈ calls, q.files = files := by
  induction h with
  | exhausted => simp
  | broken | found => simp [Question.ofCandidate]
  | passed _ _ ih => simpa [Question.ofCandidate] using ih

/-- The first candidate that answers is taken. -/
theorem Search.of_answers {candidate : String} {rest : List String}
    (h : Search run limit files before (candidate :: rest) calls found)
    (answers : (Question.ofCandidate limit before files candidate).Succeeds run) :
    found = some candidate ∧ calls = [.ofCandidate limit before files candidate] := by
  cases h with
  | broken failed _ => exact nomatch failed.symm.trans answers
  | passed undecided _ => exact absurd (.inl answers) undecided
  | found _ => exact ⟨rfl, rfl⟩

/-- **What a search asks.**  It leaves the files as they are if the programs do. -/
theorem calls_probeFrom (harmless : run.AnswersOnly limit) (all : List String) :
    ∀ (candidates : List String) (w : World), ∃ r v calls,
      (probeFrom run limit all candidates).runIn w = (r, v) ∧ v.store = w.store ∧
      Calls (fun run => probeFrom run limit all candidates) run w calls ∧
      Search run limit w.store w.launches candidates calls r.toOption
  | [], w => ⟨_, w, [], rfl, rfl, calls_of_quiet (quiet_throw _), .exhausted⟩
  | candidate :: rest, w => by
    have asked := question_eq_ofCandidate limit w candidate
    have kept : ((question limit w candidate).answer run).2 = w.store := by
      rw [asked]
      exact harmless w.launches w.store candidate
    by_cases decisive : (question limit w candidate).IsDecisive run
    · obtain ⟨v, ran, left, calls⟩ := probeFrom_of_decisive all rest decisive
      refine ⟨_, v, _, ran, left.trans kept, calls, ?_⟩
      rw [asked] at decisive ⊢
      rcases decisive with zero | ⟨failure, failed, foreign⟩
      · rw [show ((Question.ofCandidate limit w.launches w.store candidate).answer run).1 = .ok 0
          from zero]
        exact .found zero
      · rw [failed]
        exact .broken failed foreign
    · obtain ⟨v, left, later, ran, passed⟩ := probeFrom_of_not_decisive all rest decisive
      obtain ⟨r, u, calls, goes_on, same, asks, search⟩ := calls_probeFrom harmless all rest v
      have logged : versionQuery limit candidate = (question limit w candidate).launch := rfl
      rw [left, kept, later, logged, asked] at search
      refine ⟨r, u, _, ran.trans goes_on, same.trans (left.trans kept), passed calls asks, ?_⟩
      rw [asked] at decisive ⊢
      exact .passed decisive search

/-- Assembling asks one question, whatever comes of it. -/
theorem calls_assemble (wait : Option Seconds) (executable : String) (source output : Path)
    (run : Launcher) (w : World) :
    Calls (fun run => assemble run wait executable source output) run w
      [⟨w.launches, w.store, assembly wait executable source output⟩] := by
  unfold assemble
  refine (quiet_debug _).bind_calls (runIn_record _) ?_
  refine ((calls_launch _).attempt).bind_quiet ?_
  intro ended
  split
  · exact quiet_throw _
  · exact quiet_throw _
  · split
    · exact quiet_pure _
    · exact quiet_throw _

end Toolchain

namespace Build

open BootLink.Task

/-- The order in which a build asks.  It searches for the assembler, and if one was found then it
is run on the source file, once and last, and its output is shown. -/
inductive Discipline (config : Config) (run : Launcher) (files : Store) (before : List Launch)
    (source output : Path) : List Question → Prop
  | fruitless {calls : List Question}
      (search : Toolchain.Search run config.probeLimit files before config.candidates calls none) :
      Discipline config run files before source output calls
  | assembled {calls : List Question} {executable : String}
      (search : Toolchain.Search run config.probeLimit files before config.candidates calls
        (some executable)) :
      Discipline config run files before source output
        (calls ++ [{
          before := before ++ calls.map (·.launch)
          files
          launch := {
            command := [executable, "-f", "bin", "-o", output.text, source.text]
            limit := config.assemblyLimit.elim .unlimited .seconds
            quiet := false } }])

section
variable {config : Config} {cs : Components} {launcher : Launcher} {name role : String}
  {mode : Mode} {files : Store} {before : List Launch} {source output : Path}
  {calls : List Question}

theorem Discipline.files_eq (h : Discipline config launcher files before source output calls) :
    ∀ q ∈ calls, q.files = files := by
  cases h with
  | fruitless search => exact search.files_eq
  | assembled search =>
    intro q hq
    rcases List.mem_append.1 hq with hq | hq
    · exact search.files_eq q hq
    · rw [List.mem_singleton.1 hq]

theorem calls_makeBinary (harmless : launcher.AnswersOnly config.probeLimit)
    (artifacts : Artifacts) (binary : Path) (w : World) :
    ∃ calls, Calls (fun launcher => makeBinary config launcher artifacts binary) launcher w calls ∧
      Discipline config launcher w.store w.launches artifacts.assembly binary calls := by
  have noted : (Task.info "Assembling with NASM...").runIn w = (.ok ⟨⟩,
      { w with journal := w.journal.push (.log .info "Assembling with NASM...") }) := runIn_record _
  obtain ⟨r, v, calls, ran, kept, asks, search⟩ := Toolchain.calls_probeFrom harmless
    config.candidates config.candidates
    { w with journal := w.journal.push (.log .info "Assembling with NASM...") }
  dsimp only at kept search
  cases r with
  | error e =>
    exact ⟨calls, (quiet_info _).bind_calls noted (asks.bind_error ran), .fruitless search⟩
  | ok executable =>
    have launched := asks.launched
    rw [ran] at launched
    have assembles := (Toolchain.calls_assemble config.assemblyLimit executable artifacts.assembly
      binary launcher v).bind_quiet (g := fun _ => Task.info ("✓ Assembled to: " ++ binary.text))
      fun _ => quiet_info _
    rw [launched, kept, Toolchain.assembly, Toolchain.ofOption_eq_elim] at assembles
    exact ⟨_, (quiet_info _).bind_calls noted (asks.bind ran assembles), .assembled search⟩

/-! ## Before the search -/

theorem quiet_assembleFile (assembler : Component) (path : Path) (role : String) :
    Quiet (assembleFile assembler path role) := by
  refine (quiet_isFile path).bind ?_
  intro there
  cases there with
  | false => exact quiet_throw_bind _ _
  | true =>
    refine (quiet_readText path).bind fun source => (quiet_ofExcept _).bind fun assemble => ?_
    refine Quiet.bind (fun _ => rfl) fun _ => (quiet_ofExcept _).bind fun result => ?_
    split
    · exact quiet_throw _
    · exact quiet_pure _

theorem quiet_assemblePrimary : Quiet (assemblePrimary config cs name) := by
  refine (quiet_info _).bind fun _ => (quiet_info _).bind fun _ =>
    (quiet_ofExcept _).bind fun assembler => (quiet_assembleFile _ _ _).bind fun p => ?_
  exact (quiet_info _).bind fun _ => (quiet_info _).bind fun _ => quiet_pure p

theorem quiet_assembleLibrary (assembler : Component) (path : Path) :
    Quiet (assembleLibrary config assembler path) := by
  refine (quiet_isFile path).bind ?_
  intro there
  cases there with
  | false =>
    show Quiet (if config.librariesRequired then _ else _)
    split
    · exact quiet_throw_bind _ _
    · exact (quiet_debug _).bind fun _ => quiet_pure _
  | true =>
    refine (quiet_info _).bind fun _ => (quiet_assembleFile _ _ _).attempt.bind fun ended => ?_
    split
    · exact (quiet_warn _).bind fun _ => (quiet_forM (fun _ => quiet_warn _) _).bind fun _ =>
        quiet_pure _
    · exact quiet_throw _
    · exact (quiet_info _).bind fun _ => quiet_pure _

theorem quiet_linkReported (programs : List Program) : Quiet (linkReported programs) := by
  unfold linkReported Program.linkWith
  split
  · exact quiet_throw _
  · refine quiet_foldlM ?_ _ _
    intro primary library
    exact (quiet_ofExcept _).bind fun _ => (quiet_debug _).bind fun _ => quiet_pure _

theorem quiet_gather : Quiet (gather config cs name mode) := by
  refine (quiet_info _).bind fun _ => quiet_assemblePrimary.bind fun primary => ?_
  refine Quiet.bind ?_ fun found => (quiet_info _).bind fun _ =>
    (quiet_linkReported _).bind fun _ => quiet_pure _
  exact (quiet_ofExcept _).bind fun assembler =>
    (quiet_mapM (quiet_assembleLibrary assembler) _).bind fun _ => quiet_pure _

end

end Build

namespace Backend

open BootLink.Task

variable {p : Program} {cs : Components}

theorem quiet_put (output : Path) (note : String) (artifacts : Artifacts) (text : String) :
    Quiet (put output note artifacts text) :=
  (quiet_writeBytes _ _).bind fun _ => (quiet_info _).bind fun _ => quiet_pure _

theorem quiet_vmBytes (template : Path) : Quiet (vmBytes p cs template) := by
  refine (quiet_isFile _).bind ?_
  intro there
  cases there with
  | false => exact quiet_throw_bind _ _
  | true => exact (quiet_info _).bind fun _ => talks_generateBytecode.quiet

theorem quiet_embed (bytecode template : Path) (blob : ByteArray) :
    Quiet (embed bytecode template blob) := by
  refine (quiet_info _).bind fun _ => (quiet_info _).bind fun _ => (quiet_readText _).bind ?_
  intro text
  split
  · exact quiet_throw _
  · exact quiet_pure _

theorem quiet_generateNative (output : Path) : Quiet (generateNative p cs output) := by
  rw [generateNative_eq]
  exact talks_nativeText.quiet.bind fun _ => quiet_put _ _ _ _

theorem quiet_generateVm (bytecode assembly template : Path) :
    Quiet (generateVm p cs bytecode assembly template) := by
  rw [generateVm_eq]
  refine Quiet.bind ?_ fun _ => quiet_put _ _ _ _
  exact (quiet_vmBytes template).bind fun _ => (quiet_writeBytes _ _).bind fun _ =>
    quiet_embed _ _ _

theorem quiet_dispatch (mode : Mode) (dir : Path) (name : String) (template : Option Path) :
    Quiet (dispatch p mode cs dir name template) := by
  refine talks_reportLayout.quiet.bind ?_
  intro _
  cases mode with
  | native => exact quiet_generateNative _
  | vm =>
    cases template with
    | none => exact quiet_throw _
    | some template => exact quiet_generateVm _ _ template

end Backend

namespace Build

open BootLink.Task

variable {config : Config} {cs : Components} {launcher : Launcher} {name : String} {mode : Mode}

theorem quiet_lower (config : Config) (cs : Components) (name : String) (mode : Mode) :
    Quiet (lower config cs name mode) := by
  refine quiet_gather.bind ?_
  rintro ⟨program, skipped⟩
  refine Quiet.bind ?_ fun artifacts => quiet_pure _
  exact (quiet_makeDirectories _).bind fun _ => Backend.quiet_dispatch _ _ _ _

theorem quiet_packageImage (binary image : Path) : Quiet (packageImage binary image) := by
  refine (quiet_info _).bind fun _ => (quiet_readBytes _).bind fun raw => ?_
  refine Quiet.bind ?_ fun image => ?_
  · unfold makeImage
    dsimp only
    split
    · exact (quiet_warn _).bind fun _ => quiet_pure _
    · exact quiet_pure _
  · refine Quiet.bind ?_ fun _ => (quiet_info _).bind fun _ => quiet_pure _
    exact (quiet_writeBytes _ _).bind fun _ => quiet_debug _

/-- **When a build launches programs.**  If the program cannot be lowered to an assembly text then
the build ends with that failure and launches nothing.  Otherwise every launch comes after the text
was written: the launches are those of a search for the assembler, and of one run of it on the file
of the text, and each meets the files that hold the text. -/
theorem launch_discipline (harmless : launcher.AnswersOnly config.probeLimit) (cs : Components)
    (name : String) (mode : Mode) (w : World) :
    (∃ e v, (lower config cs name mode).runIn w = (.error e, v) ∧
      (run config cs launcher name mode).runIn w = (.error e, v) ∧
      Calls (fun launcher => run config cs launcher name mode) launcher w []) ∨
    ∃ p skipped v s text calls,
      (lower config cs name mode).runIn w =
        (.ok (p, skipped, .ofMode config.outputDir name mode), v) ∧
      Backend.Lowers p cs config.outputDir name mode
        (if mode = .vm then some config.templatePath else none) s text v.store ∧
      Calls (fun launcher => run config cs launcher name mode) launcher w calls ∧
      Discipline config launcher v.store w.launches (config.output name mode.assemblySuffix)
        (config.output name ".bin") calls ∧
      ∀ q ∈ calls, q.files.read (config.output name mode.assemblySuffix) = .ok text.toUTF8 := by
  simp only [run_eq_lower]
  match lowered : (lower config cs name mode).runIn w with
  | (.error e, v) =>
    refine .inl ⟨e, v, rfl, runIn_bind_of_error lowered _, ?_⟩
    exact (calls_of_quiet (quiet_lower config cs name mode)).bind_error lowered
  | (.ok (p, skipped, artifacts), v) =>
    obtain ⟨rfl, s, text, lowers⟩ := lowers_of_lower lowered
    have unlaunched := quiet_lower config cs name mode w
    rw [lowered] at unlaunched
    obtain ⟨calls, asks, discipline⟩ := calls_makeBinary harmless
      (.ofMode config.outputDir name mode) (config.output name ".bin") v
    rw [unlaunched] at discipline
    refine .inr ⟨p, skipped, v, s, text, calls, rfl, lowers, ?_, discipline, ?_⟩
    · refine (quiet_lower config cs name mode).bind_calls lowered (asks.bind_quiet ?_)
      intro _
      exact (quiet_packageImage _ _).bind fun _ => quiet_pure _
    · intro q hq
      rw [discipline.files_eq q hq]
      exact lowers.read

/-- Programs that end well are asked for a version, and the first one then assembles the text. -/
theorem idle_programs_are_disciplined :
    Sample.idle.AnswersOnly Sample.config.probeLimit ∧
    ∃ (calls : List Question) (text : String),
      Calls (fun launcher => run Sample.config Sample.components launcher "hello" .native)
        Sample.idle { store := Sample.store } calls ∧
      calls.map (·.launch) = [
        { command := ["nasm", "--version"], limit := .seconds (.ofNat 10), quiet := true },
        { command := ["nasm", "-f", "bin", "-o", "/build/hello.bin", "/build/hello.asm"]
          limit := .seconds (.ofNat 120) }] ∧
      ∀ q ∈ calls, q.files.read (Sample.config.output "hello" ".asm") = .ok text.toUTF8 := by
  have harmless : Sample.idle.AnswersOnly Sample.config.probeLimit := fun _ _ _ => rfl
  have lowered : ∃ prepared v, (lower Sample.config Sample.components "hello" .native).runIn
      { store := Sample.store } = (.ok prepared, v) := ⟨_, _, rfl⟩
  refine ⟨harmless, ?_⟩
  rcases launch_discipline harmless Sample.components "hello" .native { store := Sample.store } with
    ⟨e, v, failed, _⟩ | ⟨p, skipped, v, s, text, calls, _, _, asks, discipline, holds⟩
  · obtain ⟨_, _, lowered⟩ := lowered
    exact nomatch lowered.symm.trans failed
  · refine ⟨calls, text, asks, ?_, holds⟩
    cases discipline with
    | fruitless search => exact nomatch (search.of_answers rfl).1
    | assembled search =>
      obtain ⟨found, rfl⟩ := search.of_answers rfl
      obtain rfl := Option.some.inj found
      rfl

end Build

end BootLink
