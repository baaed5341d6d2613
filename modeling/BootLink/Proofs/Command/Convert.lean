/-
# `BootLink.Proofs.Command.Convert` — one unit, converted and built

`rosconv` writes a boot sector beside its output, and `rosbuild` writes one for the program that it
builds.  For one source file and the same components both lower the same code, and both know of the
optimizer: `rosconv` finds it, and fails if it cannot be found.  But only `rosbuild` uses it.
So the two files are the same just where the optimizer has nothing to do (`boot_sector_eq_iff`).
-/
import BootLink.Command.Convert
import BootLink.Proofs.Build.Alone
import BootLink.Proofs.Command.Build

namespace BootLink.Command

open BootLink.Task

/-! ## The command that converts -/

namespace Convert

variable {set : Setting} {r : Request} {w v : World}

/-- The command line is a request that is accepted. -/
abbrev Accepted (s : Store) (args : List String) (r : Request) : Prop :=
  Requests specs .help .version request s args r

/-- What a boot sector was written from, and where. -/
theorem runIn_writeBootSector {native : Component} {p : Program} {output : Path} {a : Unit}
    (h : (writeBootSector native p output).runIn w = (.ok a, v)) :
    ∃ path generate raw, bootSectorPath output = .ok path ∧
      native.generateBootSector = .ok generate ∧
      generate p.instructions p.data p.labels = .ok raw ∧
      v.store.read path = .ok raw.toUTF8 := by
  obtain ⟨path, w₁, found, h⟩ := runIn_bind_eq_ok_iff.1 h
  obtain ⟨generate, w₂, offered, h⟩ := runIn_bind_eq_ok_iff.1 h
  obtain ⟨raw, w₃, generated, h⟩ := runIn_bind_eq_ok_iff.1 h
  obtain ⟨_, w₄, written, logged⟩ := runIn_bind_eq_ok_iff.1 h
  have read := Store.read_of_write (store_of_runIn_writeBytes written)
  rw [← ((looks_record _).of_runIn logged).1] at read
  exact ⟨path, generate, raw, (runIn_ofExcept_eq_ok_iff.1 found).1,
    (runIn_ofExcept_eq_ok_iff.1 offered).1, (Backend.runIn_ask_eq_ok_iff.1 generated).1, read⟩

/-- Everything before text is generated: the components, and the unit. -/
def setup (set : Setting) (r : Request) : Task (Components × Program) := do
  let config := r.components.apply (← environmentConfig set)
  let cs ← set.catalogue.components config
  Task.info "Assembling Romasm..."
  let assembler ← Task.ofExcept cs.requireAssembler
  let unit ← BootLink.Build.assembleFile assembler r.input "source"
  return (cs, unit)

/-- What is written of a unit. -/
def writeUnit (r : Request) (cs : Components) (unit : Program) : Task Nat := do
  Task.info ("Assembled " ++ toString unit.layout.code ++ " instructions")
  Task.info ("Found " ++ toString unit.labels.size ++ " labels")
  Task.info ("Generating x86 " ++ widthName r.width ++ " assembly...")
  let native ← Task.ofExcept cs.requireNative
  let generate ← Task.ofExcept native.generateAssembly
  let text ← Backend.ask "x86 generator" (generate unit.instructions r.width)
  Task.writeText r.output text
  Task.record (.out ("Output written to: " ++ r.output.text))
  if r.width = .bits16 then writeBootSector native unit r.output
  return 0

theorem perform_eq (set : Setting) (r : Request) :
    perform set r = setup set r >>= fun (cs, unit) => writeUnit r cs unit := by
  simp only [perform, setup, writeUnit, bind_assoc, pure_bind]

theorem runIn_setup {cs : Components} {unit : Program}
    (h : (setup set r).runIn w = (.ok (cs, unit), v)) :
    ∃ config assembler, Config.ofEnvironment set.here set.environment = .ok config ∧
      Finds w.store (set.catalogue.components (r.components.apply config)) (.ok cs) ∧
      cs.requireAssembler = .ok assembler ∧
      Finds w.store (BootLink.Build.assembleFile assembler r.input "source") (.ok unit) := by
  obtain ⟨config, w₁, environment, h⟩ := runIn_bind_eq_ok_iff.1 h
  obtain ⟨configured, rfl⟩ := runIn_environmentConfig_eq_ok_iff.1 environment
  obtain ⟨cs, w₂, loaded, h⟩ := runIn_bind_eq_ok_iff.1 h
  obtain ⟨_, w₃, logged, h⟩ := runIn_bind_eq_ok_iff.1 h
  obtain ⟨assembler, w₄, asked, h⟩ := runIn_bind_eq_ok_iff.1 h
  obtain ⟨required, rfl⟩ := runIn_ofExcept_eq_ok_iff.1 asked
  obtain ⟨unit, w₅, assembled, h⟩ := runIn_bind_eq_ok_iff.1 h
  obtain ⟨⟨⟩, -⟩ := Prod.mk.inj ((runIn_pure (cs, unit)).symm.trans h)
  obtain ⟨kept, found⟩ := (Catalogue.looks_components _ _).of_runIn loaded
  have kept := ((looks_info _).of_runIn logged).1.trans kept
  have assembles :=
    ((BootLink.Build.looks_assembleFile (.refl _) fun _ _ => rfl).of_runIn assembled).2
  rw [kept] at assembles
  exact ⟨config, assembler, configured, found, required, assembles⟩

theorem runIn_writeUnit {cs : Components} {unit : Program} {n : Nat} (narrow : r.width = .bits16)
    (h : (writeUnit r cs unit).runIn w = (.ok n, v)) :
    ∃ path raw, bootSectorPath r.output = .ok path ∧ cs.bootSector unit = .ok raw ∧
      v.store.read path = .ok raw.toUTF8 := by
  obtain ⟨_, w₁, _, h⟩ := runIn_bind_eq_ok_iff.1 h
  obtain ⟨_, w₂, _, h⟩ := runIn_bind_eq_ok_iff.1 h
  obtain ⟨_, w₃, _, h⟩ := runIn_bind_eq_ok_iff.1 h
  obtain ⟨native, w₄, asked, h⟩ := runIn_bind_eq_ok_iff.1 h
  obtain ⟨_, w₅, _, h⟩ := runIn_bind_eq_ok_iff.1 h
  obtain ⟨_, w₆, _, h⟩ := runIn_bind_eq_ok_iff.1 h
  obtain ⟨_, w₇, _, h⟩ := runIn_bind_eq_ok_iff.1 h
  obtain ⟨_, w₈, _, h⟩ := runIn_bind_eq_ok_iff.1 h
  rw [if_pos narrow] at h
  obtain ⟨_, w₉, written, h⟩ := runIn_bind_eq_ok_iff.1 h
  obtain ⟨-, rfl⟩ := Prod.mk.inj ((runIn_pure 0).symm.trans h)
  obtain ⟨path, generate, raw, found, offered, generated, read⟩ := runIn_writeBootSector written
  refine ⟨path, raw, found, ?_, read⟩
  rw [Components.bootSector, (runIn_ofExcept_eq_ok_iff.1 asked).1]
  simp only [bind, Except.bind, offered, generated]

end Convert

/-! ## The command that builds -/

namespace Build

variable {set : Setting} {r : Request} {c config : Config} {cs : Components} {w u : World}

/-- A build that is past code generation: what it was told, its components, and the world then. -/
structure Generates (set : Setting) (args : List String) (r : Request) (w : World)
    (config : Config) (cs : Components) (u : World) : Prop where
  accepted : Accepted w.store args r
  passed : ∃ v prepared, (setup set r).runIn w = (.ok (config, cs), v) ∧
    (BootLink.Build.lower config cs r.program r.mode).runIn v = (.ok prepared, u)

theorem libraryPaths_configure (none : r.libraries = []) (alone : r.noLibrary = true) (c : Config) :
    (configure r c).libraryPaths = [] := by
  unfold configure withLibraries
  rw [none, alone]
  rfl

/-- What a native build without libraries has lowered, and what it has written. -/
theorem Generates.lowered {args : List String} (h : Generates set args r w config cs u)
    (native : r.mode = .native) (alone : r.noLibrary = true) :
    ∃ c assembler unit raw text, Config.ofEnvironment set.here set.environment = .ok c ∧
      Finds w.store (set.catalogue.components (r.components.apply c)) (.ok cs) ∧
      cs.requireAssembler = .ok assembler ∧
      Finds w.store (BootLink.Build.assembleFile assembler (config.sourcePath r.program) "source")
        (.ok unit) ∧
      cs.bootSector unit = .ok raw ∧ cs.optimized raw = .ok text ∧
      u.store.read (config.output r.program ".asm") = .ok text.toUTF8 := by
  obtain ⟨v, prepared, setsUp, lowered⟩ := h.passed
  obtain ⟨chosen, found⟩ := runIn_setup setsUp
  obtain ⟨libraries, c, configured, rfl⟩ := chosenConfig_eq_ok chosen
  have none : r.libraries = [] := libraries.resolve_right (by simp [alone])
  rw [native] at lowered
  obtain ⟨assembler, unit, raw, text, required, assembles, generated, optimized, read⟩ :=
    BootLink.Build.runIn_lower_alone (libraryPaths_configure none alone c) lowered
  rw [components_configure] at found
  rw [((looks_setup set r).of_runIn setsUp).1] at assembles
  exact ⟨c, assembler, unit, raw, text, configured, found, required, assembles, generated,
    optimized, read⟩

end Build

/-! ## Both -/

/-- **The two boot sectors are the same just where the optimizer changes nothing.**  One source file
is converted for sixteen bits, and built in native mode without libraries, with the same components
and an assembler that does not care for the names of files.  Then `rosconv` writes what the native
generator makes of it, and `rosbuild` writes what the optimizer makes of that. -/
theorem boot_sector_eq_iff {set : Setting} {args args' : List String} {r : Convert.Request}
    {r' : Build.Request} {w w' t u : World} {config : Config} {cs : Components} {verbose : Bool}
    (converts : Convert.Accepted w.store args r) (narrow : r.width = .bits16)
    (converted : (Convert.main set args).runIn w = (.ok (.finished 0 verbose), t))
    (generates : Build.Generates set args' r' w' config cs u)
    (native : r'.mode = .native) (alone : r'.noLibrary = true)
    (sameComponents : r.components = r'.components)
    (sameSource : w.store.read r.input = w'.store.read (config.sourcePath r'.program))
    (nameless : ∀ assembler, cs.requireAssembler = .ok assembler → assembler.IgnoresFileName) :
    ∃ path raw text, Convert.bootSectorPath r.output = .ok path ∧
      t.store.read path = .ok raw.toUTF8 ∧ cs.optimized raw = .ok text ∧
      u.store.read (config.output r'.program ".asm") = .ok text.toUTF8 ∧
      (t.store.read path = u.store.read (config.output r'.program ".asm") ↔
        cs.optimized raw = .ok raw) := by
  rw [Convert.main, runIn_runOn converts] at converted
  obtain ⟨v, performed, left⟩ := runIn_of_finish_zero converted
  rw [Convert.perform_eq] at performed
  obtain ⟨⟨cs', unit⟩, v₁, setsUp, writes⟩ := runIn_bind_eq_ok_iff.1 performed
  obtain ⟨c, assembler, configured, found, required, assembles⟩ := Convert.runIn_setup setsUp
  obtain ⟨path, raw, named, generated, read⟩ := Convert.runIn_writeUnit narrow writes
  obtain ⟨c', assembler', unit', raw', text, configured', found', required', assembles', generated',
    optimized, read'⟩ := generates.lowered native alone
  -- both find the same components
  obtain rfl := Except.ok.inj (configured.symm.trans configured')
  rw [sameComponents] at found
  obtain ⟨answer, finds, finds'⟩ := Catalogue.looks_components (s := w.store) (t := w'.store)
    set.catalogue (r'.components.apply c)
  obtain rfl : cs' = cs := Except.ok.inj
    ((found.unique finds).1.trans (found'.unique finds').1.symm)
  obtain rfl := Except.ok.inj (required.symm.trans required')
  -- so they have the same code, and the generator makes the same text of it
  have code := BootLink.Build.sameCode_of_assembleFile (nameless assembler required) sameSource
    assembles assembles'
  rw [Components.bootSector_congr code] at generated
  obtain rfl := Except.ok.inj (generated.symm.trans generated')
  rw [left] at read
  refine ⟨path, raw, text, named, read, optimized, read', ?_⟩
  rw [read, read', optimized, Except.ok.injEq, Except.ok.injEq, String.toUTF8_eq_toByteArray,
    String.toUTF8_eq_toByteArray, String.toByteArray_inj]
  exact eq_comm

/-! ## An optimizer that does something -/

namespace Convert.Sample

open BootLink.Build.Sample (store tools config idle)

/-- An optimizer that appends an instruction. -/
def padding : Component := { shape := .service, optimizer := some fun text => .ok (text ++ "nop") }

/-- The components of the small project, with that optimizer. -/
def components : Components where
  assembler := some tools
  native := some tools
  optimizer := padding

/-- They are named in the environment. -/
def setting : Setting where
  catalogue := [("tools", .ofList [("all", .ready tools), ("nop", .ready padding)])]
  launcher := idle
  here := config.root
  environment := [("ROMANOS_ASSEMBLER", "tools:all"), ("ROMANOS_NATIVE_GENERATOR", "tools:all"),
    ("ROMANOS_OPTIMIZER", "tools:nop")]

/-- What the environment says. -/
def chosen : Config :=
  { config with assembler := some "tools:all", nativeGenerator := some "tools:all"
                optimizer := some "tools:nop" }

theorem find_tools : setting.catalogue.find "tools:all" = .ok tools := by
  have halves : Catalogue.splitName? "tools:all" = some ("tools", "all") := rfl
  have there : setting.catalogue.checkUnit "tools" = .ok () := rfl
  have found : setting.catalogue.member? "tools" (Catalogue.steps "all") = some (.ready tools) :=
    rfl
  exact Catalogue.find_of_member halves there found rfl

theorem find_padding : setting.catalogue.find "tools:nop" = .ok padding := by
  have halves : Catalogue.splitName? "tools:nop" = some ("tools", "nop") := rfl
  have there : setting.catalogue.checkUnit "tools" = .ok () := rfl
  have found : setting.catalogue.member? "tools" (Catalogue.steps "nop") = some (.ready padding) :=
    rfl
  exact Catalogue.find_of_member halves there found rfl

theorem finds_components (s : Store) :
    Finds s (setting.catalogue.components chosen) (.ok components) := by
  refine (Catalogue.finds_loadNamed (by decide) find_tools).bind ?_
  refine (Catalogue.finds_loadNamed (by decide) find_tools).bind ?_
  exact (Catalogue.finds_loadNamed (by decide) find_padding).bind (finds_pure _)

/-- The assembler finds the same unit in every source file; only its name differs. -/
theorem finds_assembled {s : Store} {path : Path} {text : String} (valid : path.isValid = true)
    (there : s.read path = .ok text.toUTF8) :
    Finds s (BootLink.Build.assembleFile tools path "source") (.ok { name := path.name }) := by
  refine (finds_isFile_of_read valid there).bind ?_
  refine (finds_readText valid there (Text.Utf8.decode_toUTF8 text)).bind ?_
  refine (finds_ofExcept (.ok _)).bind (Ends.bind (finds_modify ?_) ?_)
  · exact fun _ => rfl
  exact (finds_ofExcept (.ok _)).bind (finds_pure _)

/-- A conversion for sixteen bits writes what the generator makes of its unit, which is nothing. -/
theorem finishes {s t u : Store} {args : List String} {r : Request} {path : Path} {text : String}
    (accepted : Accepted s args r) (unnamed : r.components = ⟨none, none, none⟩)
    (narrow : r.width = .bits16) (valid : r.input.isValid = true)
    (there : s.read r.input = .ok text.toUTF8)
    (sound : s.IsSound)
    (valid₁ : r.output.isValid = true) (written : s.write r.output "".toUTF8 = .ok t)
    (named : bootSectorPath r.output = .ok path)
    (valid₂ : path.isValid = true) (written' : t.write path "".toUTF8 = .ok u) :
    ∃ v, (main setting args).runIn { store := s } = (.ok (.finished 0 r.verbose), v) ∧
      v.store = u := by
  have setsUp : Finds s (setup setting r) (.ok (components, { name := r.input.name })) := by
    have configured : Finds s (environmentConfig setting) (.ok chosen) := fun w hw => ⟨w, rfl, hw⟩
    unfold setup
    rw [unnamed]
    refine configured.bind ((finds_components s).bind ((finds_info _).bind ?_))
    exact (finds_ofExcept (.ok tools)).bind ((finds_assembled valid there).bind (finds_pure _))
  have sound' : t.IsSound := (Store.sameTree_of_write written).isSound sound
  have writes : Ends s (writeUnit r components { name := r.input.name }) (.ok 0) u := by
    refine (finds_info _).bind ((finds_info _).bind ((finds_info _).bind ?_))
    refine (finds_ofExcept (.ok tools)).bind ((finds_ofExcept (.ok _)).bind ?_)
    refine (finds_ofExcept (.ok "")).bind ((ends_writeBytes_of_write valid₁ sound written).bind ?_)
    refine (finds_record _).bind ?_
    dsimp only
    rw [if_pos narrow]
    refine Ends.bind (a := ⟨⟩) ?_ (finds_pure 0)
    rw [writeBootSector, named]
    refine (finds_ofExcept (.ok path)).bind ?_
    refine (finds_ofExcept (.ok _)).bind ((finds_ofExcept (.ok "")).bind ?_)
    exact (ends_writeBytes_of_write valid₂ sound' written').bind (finds_record _)
  have performs := setsUp.bind (f := fun (cs, unit) => writeUnit r cs unit) writes
  rw [← perform_eq] at performs
  obtain ⟨v, run, left⟩ := performs (w := { store := s }) rfl
  refine ⟨v, ?_, left⟩
  rw [main, runIn_runOn accepted]
  exact runIn_finish_of_ok run "Conversion" r.verbose

/-- `rosconv examples/hello.romasm hello.asm` -/
def conversion : Request where
  input := .ofText "examples/hello.romasm"
  output := .ofText "hello.asm"
  width := .bits16
  components := ⟨none, none, none⟩
  verbose := false

theorem accepted : Accepted store ["examples/hello.romasm", "hello.asm"] conversion :=
  ⟨_, rfl, rfl, rfl⟩

/-- The conversion writes what the generator makes of the unit, which is nothing. -/
theorem converted : ∃ t, (main setting ["examples/hello.romasm", "hello.asm"]).runIn { store } =
    (.ok (.finished 0 false), t) ∧
    t.store.read (.ofText "hello_boot.asm") = .ok "".toUTF8 := by
  obtain ⟨u, written⟩ : ∃ u, store.write (.ofText "hello.asm") "".toUTF8 = .ok u := ⟨_, rfl⟩
  have led : store.locate (.ofText "hello_boot.asm") = .ok ["hello_boot.asm"] := rfl
  obtain ⟨t, written'⟩ := (Store.sameTree_of_write written).exists_write led (by decide) "".toUTF8
  have empty : store.read conversion.input = .ok "".toUTF8 := rfl
  have sound : store.IsSound := fun _ => rfl
  obtain ⟨v, run, rfl⟩ := finishes accepted rfl rfl rfl empty sound rfl written rfl rfl written'
  exact ⟨v, run, Store.read_of_write written'⟩

/-- `rosbuild hello --no-library` -/
def construction : Build.Request := { Build.Sample.asked with noLibrary := true }

/-- The build writes what the optimizer makes of that. -/
theorem generates : ∃ u, Build.Generates setting ["hello", "--no-library"] construction { store }
      (Build.configure construction chosen) components u ∧
    u.store.read (config.output "hello" ".asm") = .ok "nop".toUTF8 := by
  have accepted : Build.Accepted store ["hello", "--no-library"] construction := ⟨_, rfl, rfl, rfl⟩
  have setsUp : Finds store (Build.setup setting construction)
      (.ok (Build.configure construction chosen, components)) := by
    refine (finds_ofExcept (.ok _)).bind ((finds_record _).bind ((finds_record _).bind ?_))
    exact (finds_components store).bind (finds_pure _)
  obtain ⟨v, run, left⟩ := setsUp (w := { store }) rfl
  have gathers : Finds store (BootLink.Build.gather (Build.configure construction chosen)
      components "hello" .native) (.ok (Build.Sample.linked, [])) :=
    (BootLink.Build.looks_gather_alone.of_runIn (w := { store }) rfl).2
  have reported : Finds store (Backend.reportLayout Build.Sample.linked) (.ok ⟨⟩) :=
    fun w hw => ⟨_, rfl, hw⟩
  have optimized : Finds store (Backend.nativeText Build.Sample.linked components) (.ok "nop") :=
    fun w hw => ⟨_, rfl, hw⟩
  have generates : Ends store
      (BootLink.Build.generate (Build.configure construction chosen) components "hello" .native
        Build.Sample.linked)
      (.ok (.ofMode config.outputDir "hello" .native))
      (store.set ["build", "hello.asm"] (.file "nop".toUTF8)) :=
    (finds_makeDirectories rfl rfl).bind (Backend.ends_dispatch_native reported optimized rfl rfl)
  have lowers : Ends store
      (BootLink.Build.lower (Build.configure construction chosen) components "hello" .native)
      (.ok (Build.Sample.linked, [], .ofMode config.outputDir "hello" .native))
      (store.set ["build", "hello.asm"] (.file "nop".toUTF8)) :=
    gathers.bind (generates.bind (finds_pure _))
  obtain ⟨u, lowered, wrote⟩ := lowers left
  refine ⟨u, ⟨accepted, v, _, run, lowered⟩, ?_⟩
  rw [wrote]
  exact Store.read_of_write (s := store) rfl

theorem same_source : store.read conversion.input =
    store.read ((Build.configure construction chosen).sourcePath construction.program) := rfl

theorem ignoresFileName {assembler : Component}
    (h : components.requireAssembler = .ok assembler) : assembler.IgnoresFileName := by
  obtain rfl : tools = assembler := Except.ok.inj h
  intro assemble offered source file file'
  obtain rfl : (fun _ _ => .ok { program := some {} }) = assemble := Except.ok.inj offered
  rfl

end Convert.Sample

section
open Convert.Sample
open BootLink.Build.Sample (store config)

/-- The theorem applies to one source file that is converted and built. -/
theorem hello_boot_sector_eq_iff : ∃ t u,
    Convert.Accepted store ["examples/hello.romasm", "hello.asm"] conversion ∧
    (Convert.main setting ["examples/hello.romasm", "hello.asm"]).runIn { store } =
      (.ok (.finished 0 false), t) ∧
    Build.Generates setting ["hello", "--no-library"] construction { store }
      (Build.configure construction chosen) components u ∧
    ∃ path raw, t.store.read path = .ok raw.toUTF8 ∧
      (t.store.read path = u.store.read (config.output "hello" ".asm") ↔
        components.optimized raw = .ok raw) := by
  obtain ⟨t, finished, _⟩ := converted
  obtain ⟨u, generates, _⟩ := generates
  obtain ⟨path, raw, _, _, read, _, _, agree⟩ := boot_sector_eq_iff (w := { store }) accepted rfl
    finished generates rfl rfl rfl same_source fun _ => ignoresFileName
  exact ⟨t, u, accepted, finished, generates, path, raw, read, agree⟩

/-- The optimizer is found by both, and used by one: the boot sectors differ. -/
theorem boot_sectors_differ : ∃ t u,
    Convert.Accepted store ["examples/hello.romasm", "hello.asm"] conversion ∧
    conversion.width = .bits16 ∧ construction.mode = .native ∧ construction.noLibrary = true ∧
    conversion.components = construction.components ∧
    store.read conversion.input =
      store.read ((Build.configure construction chosen).sourcePath construction.program) ∧
    (∀ assembler, components.requireAssembler = .ok assembler →
      assembler.IgnoresFileName) ∧
    (Convert.main setting ["examples/hello.romasm", "hello.asm"]).runIn { store } =
      (.ok (.finished 0 false), t) ∧
    Build.Generates setting ["hello", "--no-library"] construction { store }
      (Build.configure construction chosen) components u ∧
    Convert.bootSectorPath conversion.output = .ok (.ofText "hello_boot.asm") ∧
    t.store.read (.ofText "hello_boot.asm") ≠ u.store.read (config.output "hello" ".asm") := by
  obtain ⟨t, finished, read⟩ := converted
  obtain ⟨u, generates, read'⟩ := generates
  refine ⟨t, u, accepted, rfl, rfl, rfl, rfl, same_source, fun _ => ignoresFileName, finished,
    generates, rfl, ?_⟩
  rw [read, read']
  intro same
  have same := Except.ok.inj same
  rw [String.toUTF8_eq_toByteArray, String.toUTF8_eq_toByteArray, String.toByteArray_inj] at same
  exact absurd same (by decide)

end

end BootLink.Command
