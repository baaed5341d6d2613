/-
# `BootLink.Proofs.Build.ColdStart` — what earlier builds left does not matter

`Leftovers config name mode s t` says that two file systems differ only in what earlier builds of
the program may have left under its five artifacts, and that none of these is read as an input.
From both, a build with steady programs has the same outcome, result or failure
(`outcome_eq_of_leftovers`), because it writes every artifact before it reads it.

One artifact is written by someone else.  If the external assembler ends with status zero and has
not written the binary, then the one that was there is packaged.  So the theorem asks that the
assembler delivers, or else that there is no difference in the binary, and
`stale_binary_is_packaged` shows that it has to.
-/
import BootLink.Proofs.Backend.Texts
import BootLink.Proofs.Build.Artifacts
import BootLink.Proofs.World.Launches

namespace BootLink

/-- All that a build reads. -/
def Config.inputs (c : Config) (name : String) : Mode → List Path
  | .native => c.sourcePath name :: c.libraryPaths
  | .vm => c.templatePath :: c.sourcePath name :: c.libraryPaths

namespace Build

open BootLink.Task

section
variable {config : Config} {cs : Components} {name x : String} {mode : Mode} {s t : Store}

/-! ## Writing artifacts -/

/-- A later pair of stores: they still differ in artifacts only, and agree where they did. -/
structure Later (config : Config) (name : String) (s t s' t' : Store) : Prop where
  agree : Store.AgreeBut (config.artifacts name) s' t'
  kept (p : Path) : Store.AgreeAt p s t → Store.AgreeAt p s' t'

theorem alike_writeOutput (h : Store.AgreeBut (config.artifacts name) s t)
    (hx : x ∈ artifactSuffixes) (content : ByteArray) :
    Alike s t (writeBytes (config.output name x) content) fun _ s' t' =>
      Later config name s t s' t' ∧
      s'.read (config.output name x) = t'.read (config.output name x) ∧
      ∀ p c, s.read p = .ok c → Store.AgreeAt p s t → s'.read p = t'.read p := by
  refine (alike_writeBytes h (locate_output_eq h hx) (fun q hq => Or.inr hq) content).mono ?_
  rintro _ s' t' ⟨hs, ht, agree⟩
  have kept (p : Path) (agreed : Store.AgreeAt p s t) : Store.AgreeAt p s' t' :=
    agreed.write h.toSameTree hs ht
  refine ⟨⟨agree, kept⟩, ?_, fun p c read agreed => ?_⟩
  · rw [Store.read_of_write hs, Store.read_of_write ht]
  · obtain ⟨c', read'⟩ := Store.exists_read_of_write hs read
    exact read'.trans (((kept p agreed).read_eq_ok_iff agree.toSameTree).1 read').symm

theorem Later.trans {u v s' t' : Store} (h : Later config name s t s' t')
    (h' : Later config name s' t' u v) : Later config name s t u v :=
  ⟨h'.agree, fun p agreed => h'.kept p (h.kept p agreed)⟩

/-! ## The backends -/

/-- What a backend leaves: its assembly text reads the same on both sides. -/
structure Generated (config : Config) (name : String) (s t : Store) (artifacts : Artifacts)
    (s' t' : Store) : Prop where
  later : Later config name s t s' t'
  normal : artifacts.assembly.IsNormal
  read_eq : s'.read artifacts.assembly = t'.read artifacts.assembly

theorem alike_put (normal : config.outputDir.IsNormal)
    (h : Store.AgreeBut (config.artifacts name) s t) (hx : x ∈ artifactSuffixes) (note : String)
    {artifacts : Artifacts} (assembly : artifacts.assembly = config.output name x) (text : String) :
    Alike s t (Backend.put (config.output name x) note artifacts text)
      (Generated config name s t) := by
  refine (alike_writeOutput h hx text.toUTF8).bind fun _ s' t' => ?_
  rintro ⟨later, read_eq, _⟩
  rw [← assembly] at read_eq
  have normal : artifacts.assembly.IsNormal := assembly ▸ isNormal_output normal name x
  exact (looks_info _).next_alike fun _ => alike_pure ⟨later, normal, read_eq⟩

theorem alike_generateNative (normal : config.outputDir.IsNormal)
    (h : Store.AgreeBut (config.artifacts name) s t) (p : Program) :
    Alike s t (Backend.generateNative p cs (config.output name ".asm"))
      (Generated config name s t) := by
  rw [Backend.generateNative_eq]
  exact Backend.looks_nativeText.next_alike fun text =>
    alike_put normal h (by decide) _ rfl text

theorem alike_vmText (h : Store.AgreeBut (config.artifacts name) s t)
    (template : Store.AgreeAt config.templatePath s t) (p : Program) :
    Alike s t (Backend.vmText p cs (config.output name ".rombin") config.templatePath)
      fun _ s' t' => Later config name s t s' t' := by
  refine (Backend.looks_vmBytes h.toSameTree template).bind_alike fun blob made => ?_
  obtain ⟨v, made, _⟩ := made (w := { store := s }) rfl
  obtain ⟨_, text, read⟩ := read_of_finds_isFile (Backend.runIn_vmBytes made).2.1
  refine (alike_writeOutput h (by decide) blob).bind fun _ s' t' => ?_
  rintro ⟨later, _, reads⟩
  -- the template may be where the bytecode went, but then it is the same bytecode
  exact (Backend.looks_embed (reads _ text read template)).alike fun _ _ => later

theorem alike_generateVm (normal : config.outputDir.IsNormal)
    (h : Store.AgreeBut (config.artifacts name) s t)
    (template : Store.AgreeAt config.templatePath s t) (p : Program) :
    Alike s t (Backend.generateVm p cs (config.output name ".rombin")
      (config.output name "-vm.asm") config.templatePath) (Generated config name s t) := by
  rw [Backend.generateVm_eq]
  refine (alike_vmText h template p).bind fun text s' t' later => ?_
  refine (alike_put normal later.agree (by decide) _ rfl text).mono ?_
  rintro _ u v ⟨later', normal, read_eq⟩
  exact ⟨later.trans later', normal, read_eq⟩

theorem alike_dispatch (normal : config.outputDir.IsNormal)
    (h : Store.AgreeBut (config.artifacts name) s t)
    (template : mode = .vm → Store.AgreeAt config.templatePath s t) (p : Program) :
    Alike s t (Backend.dispatch p mode cs config.outputDir name
      (if mode = .vm then some config.templatePath else none)) (Generated config name s t) := by
  refine Backend.looks_reportLayout.next_alike fun _ => ?_
  cases mode with
  | native => exact alike_generateNative normal h p
  | vm => exact alike_generateVm normal h (template rfl) p

/-! ## The binary and the image -/

section
variable {launcher : Launcher} {answer : Launcher.Answer}

theorem alike_makeBinary (steady : launcher.Steady answer) (normal : config.outputDir.IsNormal)
    {artifacts : Artifacts} {s₀ t₀ : Store} (made : Generated config name s₀ t₀ artifacts s t)
    (fresh : Toolchain.Delivers answer (config.output name ".bin") ∨
      Store.AgreeAt (config.output name ".bin") s t) :
    Alike s t (makeBinary config launcher artifacts (config.output name ".bin"))
      fun _ s' t' => Store.AgreeBut (config.artifacts name) s' t' ∧
        s'.read (config.output name ".bin") = t'.read (config.output name ".bin") := by
  have agree := made.later.agree
  unfold makeBinary
  refine (looks_info _).next_alike fun _ =>
    (Toolchain.looks_probeFrom steady _ _ _).next_alike fun executable => ?_
  refine (Toolchain.alike_assemble steady ⟨made.normal, isNormal_output normal name ".bin"⟩ agree
    made.read_eq (locate_output_eq agree (by decide)) fresh).bind fun _ s' t' h => ?_
  exact (looks_info _).alike fun _ _ => h

theorem alike_packageImage (h : Store.AgreeBut (config.artifacts name) s t)
    (read_eq : s.read (config.output name ".bin") = t.read (config.output name ".bin")) :
    Alike s t (packageImage (config.output name ".bin") (config.output name ".img"))
      fun _ _ _ => True := by
  unfold packageImage writeImage
  refine (looks_info _).next_alike fun _ => (looks_readBytes read_eq).next_alike fun raw =>
    Looks.next_alike ⟨_, finds_makeImage raw, finds_makeImage raw⟩ fun image => ?_
  rw [bind_assoc]
  refine (alike_writeOutput h (by decide) image.data).bind fun _ s' t' _ => ?_
  exact (looks_debug _).next_alike fun _ => (looks_info _).next_alike fun _ => alike_pure trivial

/-! ## The build -/

/-- The files differ in what earlier builds left, and nothing of that is an input.  What was left
is in the output directory, so there is one unless nothing was left. -/
structure Leftovers (config : Config) (name : String) (mode : Mode) (s t : Store) : Prop where
  agree : Store.AgreeBut (config.artifacts name) s t
  inputs : ∀ p ∈ config.inputs name mode, Store.AgreeAt p s t
  place : s.isDirectory config.outputDir = true ∨ Store.AgreeBut [] s t

theorem alike_makeOutputDir (left : Leftovers config name mode s t) :
    Alike s t (makeDirectories config.outputDir) fun _ => Later config name s t := by
  rcases left.place with here | nothing
  · cases valid : config.outputDir.isValid with
    | true =>
        have there := left.agree.isDirectory_eq config.outputDir ▸ here
        exact ⟨_, s, t, finds_makeDirectories here valid, finds_makeDirectories there valid,
          fun _ _ => ⟨left.agree, fun _ agreed => agreed⟩⟩
    | false =>
        unfold makeDirectories validate
        rw [valid]
        exact alike_throw_bind _ _
  · refine (alike_makeDirectories nothing config.outputDir).mono fun _ s' t' same => ?_
    exact ⟨.of_sameTree same.toSameTree same.get?_eq, fun p _ l _ => same.get?_eq l⟩

theorem alike_generate (normal : config.outputDir.IsNormal)
    (left : Leftovers config name mode s t) (p : Program) :
    Alike s t (generate config cs name mode p) (Generated config name s t) := by
  have template : mode = .vm → Store.AgreeAt config.templatePath s t := by
    rintro rfl
    exact left.inputs _ (by simp [Config.inputs])
  unfold generate
  refine (alike_makeOutputDir left).bind fun _ s' t' later => ?_
  refine (alike_dispatch normal later.agree (fun vm => later.kept _ (template vm)) p).mono ?_
  exact fun artifacts u v made => ⟨later.trans made.later, made.normal, made.read_eq⟩

theorem looks_gather_of_leftovers (left : Leftovers config name mode s t) :
    Looks s t (gather config cs name mode) := by
  refine looks_gather left.agree.toSameTree (left.inputs _ ?_) fun path h => left.inputs _ ?_
  · cases mode <;> simp [Config.inputs]
  · cases mode <;> simp [Config.inputs, h]

theorem alike_prepare (steady : launcher.Steady answer) (normal : config.outputDir.IsNormal)
    (left : Leftovers config name mode s t)
    (fresh : Toolchain.Delivers answer (config.output name ".bin") ∨
      Store.AgreeAt (config.output name ".bin") s t) :
    Alike s t (prepare config cs launcher name mode) fun _ s' t' =>
      Store.AgreeBut (config.artifacts name) s' t' ∧
      s'.read (config.output name ".bin") = t'.read (config.output name ".bin") := by
  unfold prepare
  refine (looks_gather_of_leftovers left).next_alike fun (program, _) => ?_
  refine (alike_generate normal left program).bind fun artifacts u v made => ?_
  have fresh := fresh.imp id (made.later.kept _)
  exact (alike_makeBinary steady normal made fresh).bind fun _ _ _ h => alike_pure h

end

end

/-! ## A binary that was left -/

namespace Sample

/-- Where the binary of the project stands. -/
def binaryLocation : Location := ["build", "hello.bin"]

/-- The files of the project with a binary that was left. -/
def staleStore : Store where
  entries := ⟨(binaryLocation, .file ⟨#[0x90]⟩) :: store.entries.entries, by decide⟩

theorem get?_staleStore {l : Location} (h : l ≠ binaryLocation) :
    staleStore.get? l = store.get? l := by
  have miss : (l == binaryLocation) = false := beq_false_of_ne h
  simp only [Store.get?, Table.get?, staleStore, List.lookup_cons, miss]

theorem leftovers : Leftovers config "hello" .native store staleStore where
  agree :=
    { here := rfl
      faults := rfl
      directory := fun l => by
        by_cases h : l = binaryLocation
        · subst h
          exact iff_of_false (by decide) (by decide)
        · rw [get?_staleStore h]
      elsewhere := fun l away => (get?_staleStore fun h => by
        subst h
        exact away (config.output "hello" ".bin") (by decide) rfl).symm }
  inputs p hp l there := by
    refine (get?_staleStore fun h => ?_).symm
    have elsewhere : ∀ p ∈ config.inputs "hello" .native,
        (store.locate p).toOption ≠ some binaryLocation := by decide
    exact elsewhere p hp (congrArg Except.toOption (h ▸ there))
  place := Or.inl rfl

/-- An assembler that writes one instruction, whatever it is told. -/
def diligent : Launcher := .writing ⟨#[0xF4]⟩

end Sample

/-! ## The same outcome -/

/-- **Every build is a cold start.**  From files that differ only in what earlier builds left, a
build has the same outcome: the same failure, or the same result with its program, its warnings and
its image.  The external assembler is assumed to be steady, and to have written the binary where it
ends with status zero, unless there is no difference in the binary. -/
theorem outcome_eq_of_leftovers {config : Config} {cs : Components} {launcher : Launcher}
    {answer : Launcher.Answer} {name : String} {mode : Mode} {w w' : World}
    (steady : launcher.Steady answer) (normal : config.outputDir.IsNormal)
    (left : Leftovers config name mode w.store w'.store)
    (fresh : Toolchain.Delivers answer (config.output name ".bin") ∨
      Store.AgreeAt (config.output name ".bin") w.store w'.store) :
    ((run config cs launcher name mode).runIn w).1 =
      ((run config cs launcher name mode).runIn w').1 := by
  have alike : Alike w.store w'.store (run config cs launcher name mode) fun _ _ _ => True := by
    rw [run_eq]
    refine (alike_prepare steady normal left fresh).bind fun (_, _, _) s' t' ready => ?_
    exact (alike_packageImage ready.1 ready.2).bind fun (_, _) _ _ _ => alike_pure trivial
  exact alike.runIn_eq rfl rfl

/-- An assembler that writes its output does not care what was there. -/
theorem left_binary_is_replaced :
    (∃ answer, Sample.diligent.Steady answer ∧
      Toolchain.Delivers answer (Sample.config.output "hello" ".bin")) ∧
    Sample.config.outputDir.IsNormal ∧
    Leftovers Sample.config "hello" .native Sample.store Sample.staleStore ∧
    ((run Sample.config Sample.components Sample.diligent "hello" .native).runIn
      { store := Sample.store }).1 =
    ((run Sample.config Sample.components Sample.diligent "hello" .native).runIn
      { store := Sample.staleStore }).1 := by
  have steady := Launcher.steady_writing ⟨#[0xF4]⟩
  have normal : Sample.config.outputDir.IsNormal := by decide
  have delivers : Toolchain.Delivers (fun _ _ => (.ok 0, some ⟨#[0xF4]⟩))
      (Sample.config.output "hello" ".bin") := fun _ _ _ _ => Option.some_ne_none _
  exact ⟨⟨_, steady, delivers⟩, normal, Sample.leftovers,
    outcome_eq_of_leftovers steady normal Sample.leftovers (.inl delivers)⟩

/-! ## A binary that is not replaced -/

namespace Sample

/-- The programs that do nothing answer always alike. -/
def idleAnswer : Launcher.Answer := fun _ _ => (.ok 0, none)

theorem steady_idle : idle.Steady idleAnswer := by
  intro before s l
  have kept : s.put l.output? none = s := by cases l.output? <;> rfl
  exact congrArg (Prod.mk _) kept.symm

/-- The files with the assembly text that the generator writes. -/
def withText (s : Store) : Store := s.set ["build", "hello.asm"] (.file ⟨#[]⟩)

/-- Once the assembly text is written, nothing more is asked of the files before the image. -/
theorem exists_prepared {s : Store} (h : s = store ∨ s = staleStore) :
    ∃ prepared v, (prepare config components idle "hello" .native).runIn { store := s } =
      (.ok prepared, v) ∧ v.store = withText s := by
  rcases h with rfl | rfl
  · exact ⟨_, _, rfl, rfl⟩
  · exact ⟨_, _, rfl, rfl⟩

theorem locate_withText {s : Store} {p : Path} {l : Location}
    (free : s.get? ["build", "hello.asm"] ≠ some .directory) (h : s.locate p = .ok l)
    (ne : l ≠ ["build", "hello.asm"]) :
    (withText s).locate p = .ok l ∧ (withText s).get? l = s.get? l :=
  ⟨Store.locate_set free h, Store.get?_set_of_ne s _ ne⟩

theorem read_binary_store :
    (withText store).read (config.output "hello" ".bin") = .error .missing := by
  have there : store.locate (config.output "hello" ".bin") = .ok binaryLocation := rfl
  have absent : store.get? binaryLocation = none := rfl
  obtain ⟨led, same⟩ := locate_withText (by decide) there (by decide)
  rw [Store.read, led]
  simp only [bind, Except.bind, same, absent]

theorem read_binary_staleStore :
    (withText staleStore).read (config.output "hello" ".bin") = .ok ⟨#[0x90]⟩ := by
  have there : staleStore.locate (config.output "hello" ".bin") = .ok binaryLocation := rfl
  obtain ⟨led, same⟩ := locate_withText (by decide) there (by decide)
  exact Store.read_eq_ok_iff.2 ⟨_, led, same⟩

theorem write_image_staleStore (content : ByteArray) :
    ∃ t, (withText staleStore).write (config.output "hello" ".img") content = .ok t := by
  have there : staleStore.locate (config.output "hello" ".img") = .ok ["build", "hello.img"] := rfl
  have absent : staleStore.get? ["build", "hello.img"] = none := rfl
  obtain ⟨led, same⟩ := locate_withText (by decide) there (by decide)
  exact ⟨_, Store.write_eq_ok_iff.2 ⟨_, led, by rw [same, absent]; exact nofun, rfl⟩⟩

end Sample

/-- An assembler that ends with status zero and writes nothing: without the binary that was left
there is no image; with it, it is what the image is made of. -/
theorem stale_binary_is_packaged :
    Sample.idle.Steady Sample.idleAnswer ∧ Sample.config.outputDir.IsNormal ∧
    Leftovers Sample.config "hello" .native Sample.store Sample.staleStore ∧
    ((run Sample.config Sample.components Sample.idle "hello" .native).runIn
      { store := Sample.store }).1 =
        .error (.system .missing (.onPath (Sample.config.output "hello" ".bin"))) ∧
    ∃ result, ((run Sample.config Sample.components Sample.idle "hello" .native).runIn
      { store := Sample.staleStore }).1 = .ok result ∧
        result.image = BootImage.ofBinary ⟨#[0x90]⟩ := by
  refine ⟨Sample.steady_idle, by decide, Sample.leftovers, ?_, ?_⟩
  · obtain ⟨prepared, v, prepares, left⟩ := Sample.exists_prepared (.inl rfl)
    have fails : Finds _ (packageImage _ (Sample.config.output "hello" ".img")) _ :=
      finds_packageImage_of_read (finds_readBytes_of_error rfl Sample.read_binary_store)
    obtain ⟨v', packages, _⟩ := fails left
    rw [run_eq, runIn_bind_of_ok prepares, runIn_bind_of_error packages]
  · obtain ⟨prepared, v, prepares, left⟩ := Sample.exists_prepared (.inr rfl)
    obtain ⟨t, written⟩ := Sample.write_image_staleStore (BootImage.ofBinary ⟨#[0x90]⟩).data
    obtain ⟨v', packages, _⟩ :=
      ends_packageImage_of_write (finds_readBytes_of_read rfl Sample.read_binary_staleStore)
        (ends_writeBytes_of_write rfl (fun _ => rfl) written) left
    rw [run_eq, runIn_bind_of_ok prepares, runIn_bind_of_ok packages]
    exact ⟨_, rfl, rfl⟩

end Build

end BootLink
