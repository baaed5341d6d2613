/-
# `BootLink.Proofs.Build.Libraries` — which libraries are linked

    Entry                what a configured library turns out to be: missing, a unit, or faulty, or
                         one of two kinds that should have been left out and are not
    Holds s assemble e   the files and the assembler have it so
    e.failure? required  how it stops the build, if it does

Libraries are loaded one after another, and none sees what the others came to.  So loading all of
them comes to the outcomes in their order (`finds_loading`): the first entry that stops the build
stops it at its turn, and otherwise the entries that are units give the programs, and those that are
faulty the warnings.  What follows does not touch either list: the programs are linked behind the
primary one, and the one warning that a build may add is that of a binary which does not fit into
its sector (`runIn_complete`).

A library that does not assemble is left out, and so is one that is missing and not required.  That
is not so where its problems cannot be put into words, since a line in them has a number of too many
digits, nor where its name is too long to be looked for.  Either stops the build, required or not
(`long_name_stops_build`).
-/
import BootLink.Proofs.Build.Alone
import BootLink.Proofs.Build.Files

namespace BootLink.Build

open BootLink.Task

/-- What a configured library turns out to be. -/
inductive Entry
  | missing (path : Path)
  | unit (path : Path) (p : Program)
  | faulty (path : Path)
  /-- It does not assemble, and its problems cannot be put into words. -/
  | untold (path : Path)
  /-- Its name is too long to be looked for. -/
  | unsought (path : Path)

namespace Entry

/-- The path that was configured. -/
def path : Entry → Path
  | missing path | unit path _ | faulty path | untold path | unsought path => path

/-- The program that is linked.  It is called like its file if it has no name of its own. -/
def program? : Entry → Option Program
  | unit path p => some (named path p)
  | _ => none

/-- What the build's result has to say of it. -/
def warning? : Entry → Option String
  | faulty path =>
    some ("library " ++ path.name ++ " failed to assemble; linking without it")
  | _ => none

/-- How it stops a build. -/
def failure? (required : Bool) : Entry → Option Failure
  | missing path => if required then some (.sourceNotFound path "library") else none
  | untold _ => some .longNumeral
  | unsought path => some (.system .nameTooLong (.onPath path))
  | unit .. | faulty _ => none

/-- What loading it comes to. -/
def outcome (required : Bool) (e : Entry) : Except Failure (Option Program × Option String) :=
  match e.failure? required with
  | some f => .error f
  | none => .ok (e.program?, e.warning?)

theorem outcome_of_failure {e : Entry} {required : Bool} {f : Failure}
    (h : e.failure? required = some f) : e.outcome required = .error f := by
  rw [outcome, h]

theorem outcome_of_kept {e : Entry} {required : Bool} (h : e.failure? required = none) :
    e.outcome required = .ok (e.program?, e.warning?) := by
  rw [outcome, h]

end Entry

/-- What stands at the path, and what the assembler makes of it. -/
inductive Holds (s : Store) (assemble : Assembler) : Entry → Prop
  /-- There is no file. -/
  | missing {path : Path} (absent : ∀ content, s.read path ≠ .ok content)
      (short : path.isValid = true → s.locate path ≠ .error .nameTooLong) :
      Holds s assemble (.missing path)
  /-- There is a program, and nothing to complain of. -/
  | unit {path : Path} {source : String} {result : AssemblyResult} {p : Program}
      (read : Finds s (readText path) (.ok source))
      (answered : assemble source path.text = .ok result)
      (clean : result.diagnostics = []) (made : result.program = some p) :
      Holds s assemble (.unit path p)
  /-- There are problems, or there is no program. -/
  | faulty {path : Path} {source : String} {result : AssemblyResult}
      (read : Finds s (readText path) (.ok source))
      (answered : assemble source path.text = .ok result)
      (wrong : result.diagnostics ≠ [] ∨ result.program = none)
      (told : ∀ d ∈ result.diagnostics, d.line.natAbs < Text.numeralBound) :
      Holds s assemble (.faulty path)
  /-- There is a problem in a line whose number has too many digits. -/
  | untold {path : Path} {source : String} {result : AssemblyResult}
      (read : Finds s (readText path) (.ok source))
      (answered : assemble source path.text = .ok result)
      (long : ∃ d ∈ result.diagnostics, Text.numeralBound ≤ d.line.natAbs) :
      Holds s assemble (.untold path)
  /-- The system does not take the path. -/
  | unsought {path : Path} (valid : path.isValid = true)
      (long : s.locate path = .error .nameTooLong) : Holds s assemble (.unsought path)

section
variable {config : Config} {cs : Components} {launcher : Launcher} {name role : String}
  {mode : Mode} {assembler : Component} {assemble : Assembler} {path : Path} {primary p : Program}
  {entries : List Entry} {e : Entry} {skipped : List String} {s : Store} {w v : World}
  {result : BuildResult} {required : Bool} {f : Failure}

/-! ## One entry -/

theorem finds_isFile_of_absent (absent : ∀ content, s.read path ≠ .ok content)
    (short : path.isValid = true → s.locate path ≠ .error .nameTooLong) :
    Finds s (isFile path) (.ok false) := by
  rintro w rfl
  refine ⟨w, ?_, rfl⟩
  rw [runIn_isFile]
  cases valid : path.isValid with
  | false => rfl
  | true =>
    have no_file : w.store.isFile path = false := by
      refine Bool.eq_false_iff.2 ?_
      intro there
      obtain ⟨content, read⟩ := Store.isFile_iff.1 there
      exact absent content read
    rw [if_pos rfl, no_file]
    split
    · next long => exact absurd long (short valid)
    · rfl

theorem finds_isFile_of_tooLong (valid : path.isValid = true)
    (long : s.locate path = .error .nameTooLong) :
    Finds s (isFile path) (.error (.system .nameTooLong (.onPath path))) := by
  rintro w rfl
  exact ⟨w, by rw [runIn_isFile, if_pos valid, long], rfl⟩

theorem verdict_of_clean {result : AssemblyResult} (clean : result.diagnostics = [])
    (made : result.program = some p) : verdict path result = .ok (named path p) := by
  have success : result.success? = some p := by rw [AssemblyResult.success?, clean, made]; rfl
  rw [verdict, success]

/-- A unit in which something is wrong. -/
theorem verdict_of_wrong (path : Path) {result : AssemblyResult}
    (wrong : result.diagnostics ≠ [] ∨ result.program = none) :
    ∃ ds, verdict path result = .error (.ofDiagnostics path.name ds) ∧
      (result.diagnostics = ds ∨ result.diagnostics = [] ∧ ∀ d ∈ ds, d.line = 0) := by
  unfold verdict AssemblyResult.success?
  cases found : result.diagnostics with
  | nil =>
    refine ⟨[⟨0, "assembler produced no module", ""⟩], ?_, .inr ⟨rfl, ?_⟩⟩
    · rw [wrong.resolve_left fun some_found => some_found found]
      rfl
    · intro d hd
      rw [List.mem_singleton.1 hd]
  | cons d rest => exact ⟨d :: rest, rfl, .inl rfl⟩

theorem ofDiagnostics_of_told {unit : String} {ds : List Diagnostic}
    (told : ∀ d ∈ ds, d.line.natAbs < Text.numeralBound) :
    Failure.ofDiagnostics unit ds = .assembly unit ds := by
  rw [Failure.ofDiagnostics]
  cases batch : Diagnostic.batchText? unit ds with
  | some text => rfl
  | none =>
    obtain ⟨d, hd, long⟩ := Diagnostic.batchText?_eq_none_iff.1 batch
    exact absurd long (Nat.not_le.2 (told d hd))

theorem ofDiagnostics_of_long {unit : String} {ds : List Diagnostic}
    (long : ∃ d ∈ ds, Text.numeralBound ≤ d.line.natAbs) :
    Failure.ofDiagnostics unit ds = .longNumeral := by
  rw [Failure.ofDiagnostics, Diagnostic.batchText?_eq_none_iff.2 long]

theorem Holds.finds_assembleFile (offered : assembler.assemble = .ok assemble)
    (h : Holds s assemble (.unit path p)) :
    Finds s (assembleFile assembler path role) (.ok (named path p)) := by
  cases h with
  | unit read answered clean made =>
    have found : Finds s (assembleFile assembler path role) _ :=
      Build.finds_assembleFile offered read
    rwa [answered, Except.bind, verdict_of_clean clean made] at found

/-- **Loading one library.** -/
theorem Holds.finds_assembleLibrary (config : Config) (offered : assembler.assemble = .ok assemble)
    (h : Holds s assemble e) :
    Finds s (assembleLibrary config assembler e.path) (e.outcome config.librariesRequired) := by
  cases h with
  | missing absent short =>
    refine (finds_isFile_of_absent absent short).bind ?_
    unfold Entry.outcome Entry.failure?
    cases config.librariesRequired with
    | true => exact (finds_throw _).bind_error _
    | false => exact (finds_debug _).bind (finds_pure _)
  | unit read answered clean made =>
    have found := Build.finds_assembleLibrary config (finds_isFile_of_readText read)
      (Holds.finds_assembleFile offered (.unit read answered clean made))
    rwa [Entry.outcome_of_kept rfl]
  | @faulty path _ result read answered wrong told =>
    have found := Build.finds_assembleLibrary config (finds_isFile_of_readText read)
      (Build.finds_assembleFile offered read)
    obtain ⟨ds, judged, same⟩ := verdict_of_wrong path wrong
    have told : ∀ d ∈ ds, d.line.natAbs < Text.numeralBound := by
      rcases same with rfl | ⟨-, zero⟩
      · exact told
      · intro d hd
        rw [zero d hd]
        exact Nat.lt_of_lt_of_le (by decide) Text.ten_le_numeralBound
    rw [answered, Except.bind, judged, ofDiagnostics_of_told told] at found
    rwa [Entry.outcome_of_kept rfl]
  | @untold path _ result read answered long =>
    have found := Build.finds_assembleLibrary config (finds_isFile_of_readText read)
      (Build.finds_assembleFile offered read)
    obtain ⟨d, hd, _⟩ := id long
    obtain ⟨ds, judged, same⟩ := verdict_of_wrong path (.inl (List.ne_nil_of_mem hd))
    obtain rfl := same.resolve_right fun none_found => List.ne_nil_of_mem hd none_found.1
    rw [answered, Except.bind, judged, ofDiagnostics_of_long long] at found
    rwa [Entry.outcome_of_failure rfl]
  | unsought valid long =>
    rw [Entry.outcome_of_failure rfl]
    exact (finds_isFile_of_tooLong valid long).bind_error _

/-- **There is no other kind of library**, where what stands at its path is a text and the assembler
has an answer to it. -/
theorem exists_holds (answers : ∀ content, s.read path = .ok content →
      ∃ source result, Finds s (readText path) (.ok source) ∧
        assemble source path.text = .ok result) :
    ∃ e : Entry, e.path = path ∧ Holds s assemble e := by
  by_cases there : ∃ content, s.read path = .ok content
  · obtain ⟨content, there⟩ := there
    obtain ⟨source, result, read, answered⟩ := answers content there
    by_cases long : ∃ d ∈ result.diagnostics, Text.numeralBound ≤ d.line.natAbs
    · exact ⟨.untold path, rfl, .untold read answered long⟩
    · have told : ∀ d ∈ result.diagnostics, d.line.natAbs < Text.numeralBound :=
        fun d hd => Nat.not_le.1 fun too_long => long ⟨d, hd, too_long⟩
      by_cases clean : result.diagnostics = []
      · cases made : result.program with
        | none => exact ⟨.faulty path, rfl, .faulty read answered (.inr made) told⟩
        | some p => exact ⟨.unit path p, rfl, .unit read answered clean made⟩
      · exact ⟨.faulty path, rfl, .faulty read answered (.inl clean) told⟩
  · by_cases long : path.isValid = true ∧ s.locate path = .error .nameTooLong
    · exact ⟨.unsought path, rfl, .unsought long.1 long.2⟩
    · exact ⟨.missing path, rfl, .missing (fun content read => there ⟨content, read⟩)
        fun valid too_long => long ⟨valid, too_long⟩⟩

/-! ## All of them -/

theorem mapM_outcome_of_failure (h : entries.findSome? (Entry.failure? required) = some f) :
    entries.mapM (Entry.outcome required) = .error f := by
  induction entries with
  | nil => exact nomatch h
  | cons e rest ih =>
    rw [List.findSome?_cons] at h
    rw [List.mapM_cons]
    cases stops : e.failure? required with
    | some first =>
      rw [stops] at h
      obtain rfl := Option.some.inj h
      rw [Entry.outcome_of_failure stops]
      rfl
    | none =>
      rw [stops] at h
      rw [Entry.outcome_of_kept stops, ih h]
      rfl

theorem mapM_outcome_of_kept (h : ∀ e ∈ entries, e.failure? required = none) :
    entries.mapM (Entry.outcome required) =
      .ok (entries.map fun e => (e.program?, e.warning?)) := by
  induction entries with
  | nil => rfl
  | cons e rest ih =>
    rw [List.mapM_cons, Entry.outcome_of_kept (h e List.mem_cons_self),
      ih fun e' he' => h e' (List.mem_cons_of_mem e he')]
    rfl

/-- **Loading the libraries comes to the outcomes of the entries.** -/
theorem finds_loading (config : Config) (offered : assembler.assemble = .ok assemble)
    (holds : ∀ e ∈ entries, Holds s assemble e) :
    Finds s ((entries.map Entry.path).mapM (assembleLibrary config assembler))
      (entries.mapM (Entry.outcome config.librariesRequired)) := by
  rw [List.mapM_map]
  exact finds_mapM fun e he => (holds e he).finds_assembleLibrary config offered

/-- What a build is given: an assembler, a program that assembles, and its libraries. -/
structure Given (config : Config) (cs : Components) (name : String) (assembler : Component)
    (assemble : Assembler) (s : Store) (primary : Program) (entries : List Entry) : Prop where
  required : cs.requireAssembler = .ok assembler
  offered : assembler.assemble = .ok assemble
  source : Holds s assemble (.unit (config.sourcePath name) primary)
  paths : config.libraryPaths = entries.map Entry.path
  libraries : ∀ e ∈ entries, Holds s assemble e

theorem Given.finds_assembleLibraries_of_failure
    (h : Given config cs name assembler assemble s primary entries)
    (first : entries.findSome? (Entry.failure? config.librariesRequired) = some f) :
    Finds s (assembleLibraries config cs) (.error f) := by
  have loading := finds_loading config h.offered h.libraries
  rw [mapM_outcome_of_failure first] at loading
  unfold assembleLibraries
  rw [h.required, h.paths]
  exact (finds_ofExcept _).bind (loading.bind_error _)

theorem Given.finds_assembleLibraries
    (h : Given config cs name assembler assemble s primary entries)
    (kept : ∀ e ∈ entries, e.failure? config.librariesRequired = none) :
    Finds s (assembleLibraries config cs)
      (.ok (entries.filterMap Entry.program?, entries.filterMap Entry.warning?)) := by
  have loading := finds_loading config h.offered h.libraries
  rw [mapM_outcome_of_kept kept] at loading
  unfold assembleLibraries
  rw [h.required, h.paths]
  refine (finds_ofExcept _).bind (loading.bind ?_)
  rw [List.filterMap_map, List.filterMap_map]
  exact finds_pure _

/-! ## Before the libraries, and after linking -/

/-- A build before it turns to its libraries. -/
def opening (config : Config) (cs : Components) (name : String) (mode : Mode) : Task Program := do
  Task.info ("Build mode: " ++ mode.title)
  assemblePrimary config cs name

theorem gather_eq (config : Config) (cs : Components) (name : String) (mode : Mode) :
    gather config cs name mode = do
      let primary ← opening config cs name mode
      let (libraries, skipped) ← assembleLibraries config cs
      Task.info "Linking with standard library..."
      let program ← linkReported (primary :: libraries)
      return (program, skipped) := by
  simp only [gather, opening, bind_assoc]

theorem Given.finds_opening (h : Given config cs name assembler assemble s primary entries)
    (mode : Mode) :
    Finds s (opening config cs name mode) (.ok (named (config.sourcePath name) primary)) := by
  refine (finds_info _).bind ((finds_info _).bind ((finds_info _).bind ?_))
  rw [h.required]
  refine (finds_ofExcept _).bind ((h.source.finds_assembleFile h.offered).bind ?_)
  exact (finds_info _).bind ((finds_info _).bind (finds_pure _))

/-- What a build does with the program that was linked. -/
def complete (config : Config) (cs : Components) (launcher : Launcher) (name : String)
    (mode : Mode) (program : Program) (skipped : List String) : Task BuildResult := do
  let artifacts ← generate config cs name mode program
  makeBinary config launcher artifacts (config.output name ".bin")
  let (image, cut) ← packageImage (config.output name ".bin") (config.output name ".img")
  return { name, mode, program, artifacts, binary := config.output name ".bin"
           imagePath := config.output name ".img", image
           warnings := skipped ++ cut.toList }

theorem run_eq_complete (config : Config) (cs : Components) (launcher : Launcher) (name : String)
    (mode : Mode) :
    run config cs launcher name mode = gather config cs name mode >>= fun (program, skipped) =>
      complete config cs launcher name mode program skipped := by
  simp only [run_eq, prepare, complete, bind_assoc, pure_bind]

/-- The program, and the warnings about its libraries. -/
theorem Given.finds_gather (h : Given config cs name assembler assemble s primary entries)
    (mode : Mode) (kept : ∀ e ∈ entries, e.failure? config.librariesRequired = none) :
    Finds s (gather config cs name mode)
      (((Program.link (named (config.sourcePath name) primary ::
        entries.filterMap Entry.program?)).mapError .relocation).map
          fun p => (p, entries.filterMap Entry.warning?)) := by
  rw [gather_eq]
  refine (h.finds_opening mode).bind ((h.finds_assembleLibraries kept).bind ?_)
  have linked := finds_linkReported (s := s)
    (named (config.sourcePath name) primary :: entries.filterMap Entry.program?)
  refine (finds_info _).bind ?_
  cases came : Program.link (named (config.sourcePath name) primary ::
      entries.filterMap Entry.program?) with
  | error fault =>
    rw [came] at linked
    exact linked.bind_error _
  | ok p =>
    rw [came] at linked
    exact linked.bind (finds_pure _)

/-- What a build warns of at its end, for the size of its binary. -/
def cutWarnings (size : Nat) : List String :=
  if 512 < size then
    ["boot sector is " ++ toString size ++
      " bytes; only the first 512 were written to the image"]
  else []

theorem toList_cutWarning? (raw : ByteArray) :
    (cutWarning? (BootImage.ofBinary raw)).toList = cutWarnings raw.size := by
  by_cases h : 512 < raw.size
  · have cut : (BootImage.ofBinary raw).truncated = true := decide_eq_true h
    rw [cutWarning?, cutWarnings, if_pos h, if_pos cut]
    rfl
  · have whole : (BootImage.ofBinary raw).truncated = false := decide_eq_false h
    rw [cutWarning?, cutWarnings, if_neg h, whole]
    rfl

/-- **A build that is completed** is one of the program that was linked, and warns of nothing else
but a binary that is too long. -/
theorem runIn_complete
    (h : (complete config cs launcher name mode p skipped).runIn w = (.ok result, v)) :
    result.program = p ∧ ∃ raw, v.store.read (config.output name ".bin") = .ok raw ∧
      result.warnings = skipped ++ cutWarnings raw.size := by
  obtain ⟨artifacts, w₁, -, h⟩ := runIn_bind_eq_ok_iff.1 h
  obtain ⟨_, w₂, -, h⟩ := runIn_bind_eq_ok_iff.1 h
  obtain ⟨⟨image, cut⟩, w₃, packaged, h⟩ := runIn_bind_eq_ok_iff.1 h
  obtain ⟨answer, rfl⟩ := Prod.mk.inj h
  obtain rfl := Except.ok.inj answer
  rcases packageImage_cases w₂.store (config.output name ".bin") (config.output name ".img") with
    ⟨e, fails⟩ | ⟨e, _, _, _, _, _, fails⟩ | ⟨raw, t, read, written, ends⟩
  · obtain ⟨_, failed, _⟩ := fails (w := w₂) rfl
    exact nomatch packaged.symm.trans failed
  · obtain ⟨_, failed, _⟩ := fails (w := w₂) rfl
    exact nomatch packaged.symm.trans failed
  · obtain ⟨u, ended, rfl⟩ := ends (w := w₂) rfl
    obtain ⟨same, rfl⟩ := Prod.mk.inj (packaged.symm.trans ended)
    obtain ⟨-, rfl⟩ := Prod.mk.inj (Except.ok.inj same)
    refine ⟨rfl, raw, (read_packaged read written).1, ?_⟩
    rw [← toList_cutWarning?]

/-! ## The selection -/

/-- A library has stopped the build, after the program was assembled and before anything was
linked. -/
def StopsAt (config : Config) (cs : Components) (launcher : Launcher) (name : String) (mode : Mode)
    (w : World) (unit : Program) (f : Failure) : Prop :=
  ∃ u v, (opening config cs name mode).runIn w = (.ok unit, u) ∧
    (assembleLibraries config cs).runIn u = (.error f, v) ∧
    (run config cs launcher name mode).runIn w = (.error f, v) ∧ v.store = w.store

/-- The programs were linked, with these warnings so far, and the build is about what came of
that. -/
structure Links (config : Config) (cs : Components) (launcher : Launcher) (name : String)
    (mode : Mode) (w : World) (programs : List Program) (warnings : List String) : Prop where
  fault (f : RelocationFault) : Program.link programs = .error f →
    ∃ v, (run config cs launcher name mode).runIn w = (.error (.relocation f), v) ∧
      v.store = w.store
  goes_on (p : Program) : Program.link programs = .ok p →
    ∃ v, (gather config cs name mode).runIn w = (.ok (p, warnings), v) ∧ v.store = w.store ∧
      (run config cs launcher name mode).runIn w =
        (complete config cs launcher name mode p warnings).runIn v
  result (result : BuildResult) (v : World) :
    (run config cs launcher name mode).runIn w = (.ok result, v) →
    Program.link programs = .ok result.program ∧
      ∃ raw, v.store.read (config.output name ".bin") = .ok raw ∧
        result.warnings = warnings ++ cutWarnings raw.size

theorem Given.stopsAt (h : Given config cs name assembler assemble w.store primary entries)
    (launcher : Launcher) (mode : Mode)
    (first : entries.findSome? (Entry.failure? config.librariesRequired) = some f) :
    StopsAt config cs launcher name mode w (named (config.sourcePath name) primary) f := by
  obtain ⟨u, opened, same⟩ := h.finds_opening mode (w := w) rfl
  obtain ⟨v, stopped, kept⟩ := h.finds_assembleLibraries_of_failure first same
  refine ⟨u, v, opened, stopped, ?_, kept⟩
  rw [run_eq_complete, gather_eq]
  refine runIn_bind_of_error ?_ _
  rw [runIn_bind_of_ok opened]
  exact runIn_bind_of_error stopped _

theorem Given.links (h : Given config cs name assembler assemble w.store primary entries)
    (launcher : Launcher) (mode : Mode)
    (kept : ∀ e ∈ entries, e.failure? config.librariesRequired = none) :
    Links config cs launcher name mode w
      (named (config.sourcePath name) primary :: entries.filterMap Entry.program?)
      (entries.filterMap Entry.warning?) := by
  obtain ⟨v, gathered, same⟩ := h.finds_gather mode kept (w := w) rfl
  refine ⟨?_, ?_, ?_⟩
  · intro f fault
    rw [fault] at gathered
    refine ⟨v, ?_, same⟩
    rw [run_eq_complete]
    exact runIn_bind_of_error gathered _
  · intro p linked
    rw [linked] at gathered
    refine ⟨v, gathered, same, ?_⟩
    rw [run_eq_complete, runIn_bind_of_ok gathered]
  · intro result t ran
    rw [run_eq_complete] at ran
    cases linked : Program.link (named (config.sourcePath name) primary ::
        entries.filterMap Entry.program?) with
    | error f =>
      rw [linked] at gathered
      rw [runIn_bind_of_error gathered] at ran
      exact nomatch ran
    | ok p =>
      rw [linked] at gathered
      rw [runIn_bind_of_ok gathered] at ran
      obtain ⟨rfl, raw, read, warned⟩ := runIn_complete ran
      exact ⟨rfl, raw, read, warned⟩

/-- **Library selection.**  The build stops at the first library that is missing and required, or
has a name that is too long, or has problems that cannot be put into words.  If there is none of
these then the program is linked with exactly the libraries that there are and that assemble, in the
order of the configuration, and the warnings are about exactly those that do not assemble, and about
a binary that is too long. -/
theorem library_selection (h : Given config cs name assembler assemble w.store primary entries)
    (launcher : Launcher) (mode : Mode) :
    (∀ f, entries.findSome? (Entry.failure? config.librariesRequired) = some f →
      StopsAt config cs launcher name mode w (named (config.sourcePath name) primary) f) ∧
    ((∀ e ∈ entries, e.failure? config.librariesRequired = none) →
      Links config cs launcher name mode w
        (named (config.sourcePath name) primary :: entries.filterMap Entry.program?)
        (entries.filterMap Entry.warning?)) :=
  ⟨fun _ => h.stopsAt launcher mode, h.links launcher mode⟩

end

/-! ## Three libraries -/

namespace Sample

/-- The project with three libraries at its root. -/
def shelved (required : Bool) : Config :=
  { config with
    libraries := [.ofText "none.romasm", .ofText "bad.romasm", .ofText "good.romasm"]
    librariesRequired := required }

/-- Its files; the first library is not there. -/
def shelf : Store where
  entries := ⟨[(["examples"], .directory), (["examples", "hello.romasm"], .file ⟨#[]⟩),
    (["build"], .directory), (["bad.romasm"], .file ⟨#[0x3F]⟩), (["good.romasm"], .file ⟨#[]⟩)],
    by decide⟩

/-- An assembler that takes nothing but the empty text, and finds a problem in one line of any
other. -/
def takeEmpty (line : Int) : Assembler := fun source _ =>
  .ok (if source.toList = [] then { program := some {} } else { diagnostics := [⟨line, "", ""⟩] })

def picky (line : Int) : Component := { shape := .service, assembler := some (takeEmpty line) }

/-- The components of the project. -/
def pickyComponents (line : Int) : Components :=
  { assembler := some (picky line), native := some tools }

theorem holds_unit {s : Store} {path : Path} {line : Int} (valid : path.isValid = true)
    (there : s.read path = .ok "".toUTF8) : Holds s (takeEmpty line) (.unit path {}) := by
  have read := finds_readText valid there (Text.Utf8.decode_toUTF8 "")
  have empty : String.ofList (Text.unifyLineEnds "".toList) = "" := rfl
  rw [empty] at read
  have answered : takeEmpty line "" path.text = .ok { program := some {} } := rfl
  exact .unit read answered rfl rfl

theorem takeEmpty_of_ne {source : String} (ne : source.toList ≠ []) (line : Int) (file : String) :
    takeEmpty line source file = .ok { diagnostics := [⟨line, "", ""⟩] } := by
  rw [takeEmpty, if_neg ne]

/-- What the libraries turn out to be. -/
def found (bad : Entry) : List Entry :=
  [.missing ⟨.root, ["none.romasm"]⟩, bad, .unit ⟨.root, ["good.romasm"]⟩ {}]

theorem holds_source (line : Int) :
    Holds shelf (takeEmpty line) (.unit ⟨.root, ["examples", "hello.romasm"]⟩ {}) :=
  holds_unit rfl rfl

theorem given_shelf (required : Bool) {line : Int} {bad : Entry}
    (there : bad.path = ⟨.root, ["bad.romasm"]⟩) (holds : Holds shelf (takeEmpty line) bad) :
    Given (shelved required) (pickyComponents line) "hello" (picky line) (takeEmpty line) shelf {}
      (found bad) where
  required := rfl
  offered := rfl
  source := holds_source line
  paths := by rw [found, List.map_cons, List.map_cons, there]; rfl
  libraries := by
    intro e he
    simp only [found, List.mem_cons, List.not_mem_nil, or_false] at he
    rcases he with rfl | rfl | rfl
    · exact .missing (fun _ => nofun) fun _ => nofun
    · exact holds
    · exact holds_unit rfl rfl

theorem holds_bad : Holds shelf (takeEmpty 1) (.faulty ⟨.root, ["bad.romasm"]⟩) := by
  refine .faulty (finds_readText rfl rfl rfl) (takeEmpty_of_ne (by decide) 1 _) (.inl nofun) ?_
  intro d hd
  rw [List.mem_singleton.1 hd]
  exact Nat.lt_of_lt_of_le (by decide) Text.ten_le_numeralBound

/-- The problem is in a line whose number has one digit too many. -/
theorem holds_worse :
    Holds shelf (takeEmpty Text.numeralBound) (.untold ⟨.root, ["bad.romasm"]⟩) := by
  refine .untold (finds_readText rfl rfl rfl) (takeEmpty_of_ne (by decide) _ _) ?_
  exact ⟨_, List.mem_singleton.2 rfl, Nat.le_of_eq (Int.natAbs_natCast _).symm⟩

/-- A name that no file can have. -/
def longName : String := String.ofList (List.replicate 256 'a')

theorem utf8ByteSize_longName : longName.utf8ByteSize = 256 := by decide +kernel

theorem text_at_root (name : String) : Path.text ⟨.root, [name]⟩ = "/" ++ name := by
  have named : ¬(Anchor.root = .relative ∧ [name] = []) := by simp
  rw [Path.text, if_neg named]
  rfl

theorem isValid_replicate (n : Nat) :
    Path.isValid ⟨.root, [String.ofList (List.replicate n 'a')]⟩ = true := by
  rw [Path.isValid, text_at_root, String.toList_append, String.toList_ofList]
  simp

/-- The project with one library of some name. -/
def withLibrary (name : String) : Config := { config with libraries := [⟨.relative, [name]⟩] }

/-- The name of the library is too long, whatever it is. -/
theorem given_withLibrary {name : String} (valid : Path.isValid ⟨.root, [name]⟩ = true)
    (long : shelf.locate ⟨.root, [name]⟩ = .error .nameTooLong) :
    Given (withLibrary name) (pickyComponents 1) "hello" (picky 1) (takeEmpty 1) shelf {}
      [.unsought ⟨.root, [name]⟩] where
  required := rfl
  offered := rfl
  source := holds_source 1
  paths := rfl
  libraries := by
    intro e he
    rw [List.mem_singleton.1 he]
    exact .unsought valid long

theorem stopsAt_withLibrary {name : String} (valid : Path.isValid ⟨.root, [name]⟩ = true)
    (long : shelf.locate ⟨.root, [name]⟩ = .error .nameTooLong) :
    StopsAt (withLibrary name) (pickyComponents 1) idle "hello" .native { store := shelf }
      { name := "hello.romasm" } (.system .nameTooLong (.onPath ⟨.root, [name]⟩)) :=
  (given_withLibrary valid long).stopsAt (w := { store := shelf }) _ _ rfl

theorem libraryPaths_withLibrary (name : String) :
    (withLibrary name).libraryPaths = [⟨.root, [name]⟩] := rfl

theorem locate_longName : shelf.locate ⟨.root, [longName]⟩ = .error .nameTooLong := by
  have short : ¬Store.pathLimit < (Path.text ⟨.root, [longName]⟩).utf8ByteSize := by
    rw [text_at_root, String.utf8ByteSize_append, utf8ByteSize_longName]
    decide
  have name : longName ≠ "." ∧ longName ≠ ".." := by decide +kernel
  have long : Store.nameLimit < longName.utf8ByteSize := by
    rw [utf8ByteSize_longName]
    decide
  rw [Store.locate, if_neg short]
  show shelf.walk [] [longName] = _
  rw [Store.walk_of_directory (Store.get?_root shelf), Store.stepFrom, if_neg name.1,
    if_neg name.2, if_pos long]
  rfl

theorem read_longName (content : ByteArray) : shelf.read ⟨.root, [longName]⟩ ≠ .ok content := by
  intro read
  obtain ⟨l, there, _⟩ := Store.read_eq_ok_iff.1 read
  exact nomatch there.symm.trans locate_longName

theorem valid_longName : Path.isValid ⟨.root, [longName]⟩ = true := isValid_replicate 256

end Sample

/-- The theorem applies where one library is missing, one does not assemble and one does. -/
theorem good_library_is_linked :
    (∀ required, Given (Sample.shelved required) (Sample.pickyComponents 1) "hello" (Sample.picky 1)
      (Sample.takeEmpty 1) Sample.shelf {} (Sample.found (.faulty ⟨.root, ["bad.romasm"]⟩))) ∧
    StopsAt (Sample.shelved true) (Sample.pickyComponents 1) Sample.idle "hello" .native
      { store := Sample.shelf } { name := "hello.romasm" }
      (.sourceNotFound ⟨.root, ["none.romasm"]⟩ "library") ∧
    ∃ p v, Program.link [{ name := "hello.romasm" }, { name := "good.romasm" }] = .ok p ∧
      (gather (Sample.shelved false) (Sample.pickyComponents 1) "hello" .native).runIn
          { store := Sample.shelf } =
        (.ok (p, ["library bad.romasm failed to assemble; linking without it"]), v) := by
  have given (required : Bool) := Sample.given_shelf required rfl Sample.holds_bad
  obtain ⟨stops, -⟩ := library_selection (w := { store := Sample.shelf }) (given true)
    Sample.idle .native
  obtain ⟨-, links⟩ := library_selection (w := { store := Sample.shelf }) (given false)
    Sample.idle .native
  refine ⟨given, stops _ rfl, ?_⟩
  obtain ⟨p, linked⟩ : ∃ p, Program.link
      [{ name := "hello.romasm" }, { name := "good.romasm" }] = .ok p := ⟨_, rfl⟩
  have kept : ∀ e ∈ Sample.found (.faulty ⟨.root, ["bad.romasm"]⟩), e.failure? false = none := by
    intro e he
    simp only [Sample.found, List.mem_cons, List.not_mem_nil, or_false] at he
    rcases he with rfl | rfl | rfl <;> rfl
  obtain ⟨v, gathered, -⟩ := (links kept).goes_on p linked
  exact ⟨p, v, linked, gathered⟩

/-- Two builds that do not require their libraries.  One of them has a library that is missing, and
that has a name which no file can have.  The other has a library that does not assemble, for a
problem in a line whose number has too many digits.  Both libraries should have been left out, and
both builds stop. -/
theorem long_name_stops_build :
    ((Sample.withLibrary Sample.longName).librariesRequired = false ∧
      (Sample.withLibrary Sample.longName).libraryPaths = [⟨.root, [Sample.longName]⟩] ∧
      (∀ content, Sample.shelf.read ⟨.root, [Sample.longName]⟩ ≠ .ok content) ∧
      StopsAt (Sample.withLibrary Sample.longName) (Sample.pickyComponents 1) Sample.idle "hello"
        .native { store := Sample.shelf } { name := "hello.romasm" }
        (.system .nameTooLong (.onPath ⟨.root, [Sample.longName]⟩))) ∧
    (Sample.shelved false).librariesRequired = false ∧
      Holds Sample.shelf (Sample.takeEmpty Text.numeralBound) (.untold ⟨.root, ["bad.romasm"]⟩) ∧
      StopsAt (Sample.shelved false) (Sample.pickyComponents Text.numeralBound) Sample.idle "hello"
        .native { store := Sample.shelf } { name := "hello.romasm" } .longNumeral := by
  have given := Sample.given_shelf false rfl Sample.holds_worse
  refine ⟨⟨rfl, Sample.libraryPaths_withLibrary _, Sample.read_longName, ?_⟩, rfl,
    Sample.holds_worse, ?_⟩
  · exact Sample.stopsAt_withLibrary Sample.valid_longName Sample.locate_longName
  · exact given.stopsAt (w := { store := Sample.shelf }) _ _ rfl

end BootLink.Build
