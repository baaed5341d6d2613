/-
# `BootLink.Proofs.Backend.Apart` — the backends keep apart

    ApartNative p dir name    what a native dispatch depends on, and what it changes
    ApartVm p dir name        the same of one through the virtual machine

Both ways come to a text and end by writing it (`put`).  Up to there the native way only talks
(`talks_lowering`), so it comes to the same text in every world, and there are files in the matter
only when the text is written.  The other way reads the template and has written its bytecode
before, but it never asks the native generator or the optimizer, and so it is the same task whatever
they are (`dispatch_vm_congr`).

The native way does not read the template, but it can stumble over it: where the path of its output
leads through the template, it makes a difference whether that is there (`template_in_the_way`).  So
the output is assumed to pass by the template.
-/
import BootLink.Proofs.Backend.Agreement
import BootLink.Proofs.Build.Files

namespace BootLink.Backend

open BootLink.Task

variable {p : Program} {cs cs' : Components} {dir output bytecode assembly path : Path}
  {name note : String} {template template' : Option Path} {artifacts : Artifacts} {text : String}
  {w v : World} {t : Store} {e f : Failure}

/-! ## The two ways before they write -/

/-- The report and the text of the native way. -/
def lowering (p : Program) (cs : Components) : Task String := do
  reportLayout p
  nativeText p cs

theorem dispatch_native_eq (p : Program) (cs : Components) (dir : Path) (name : String)
    (template : Option Path) :
    dispatch p .native cs dir name template = lowering p cs >>=
      put (dir.child (name ++ ".asm"))
        ("✓ Generated x86 assembly: " ++ (dir.child (name ++ ".asm")).text)
        { mode := .native, assembly := dir.child (name ++ ".asm") } := by
  simp only [dispatch, generateNative_eq, lowering, bind_assoc]

theorem talks_lowering (p : Program) (cs : Components) : Talks (lowering p cs) :=
  talks_reportLayout.bind fun _ => talks_nativeText

/-! ## Writing the text -/

/-- Two runs do the same, from worlds that differ in nothing but their files `s` and `t`: they end
alike, they say, launch and assemble the same, and both write one content to the output, or neither
has changed a file. -/
structure SameDoing (output : Path) (s t : Store) (run run' : Except Failure Artifacts × World) :
    Prop where
  ends : run.1 = run'.1
  tells : run'.2 = { run.2 with store := run'.2.store }
  writes : (run.2.store = s ∧ run'.2.store = t) ∨
    ∃ content, s.write output content = .ok run.2.store ∧ t.write output content = .ok run'.2.store

theorem sameDoing_put (tree : w.store.SameTree t) (same : w.store.locate output = t.locate output)
    (note : String) (artifacts : Artifacts) (text : String) :
    SameDoing output w.store t ((put output note artifacts text).runIn w)
      ((put output note artifacts text).runIn { w with store := t }) := by
  have writes := runIn_writeBytes (w := w) output text.toUTF8
  have writes' := runIn_writeBytes (w := { w with store := t }) output text.toUTF8
  cases valid : output.isValid with
  | false =>
    rw [valid] at writes writes'
    rw [put, writeText, runIn_bind_of_error writes, runIn_bind_of_error writes']
    exact ⟨rfl, rfl, .inl ⟨rfl, rfl⟩⟩
  | true =>
    rw [valid, if_pos rfl] at writes writes'
    rcases Store.writeOut_alike tree same text.toUTF8 with ⟨e, ended, ended'⟩ |
      ⟨e, part, s, s', written, written', ended, ended'⟩ |
      ⟨s, s', written, written', ended, ended'⟩
    · rw [ended] at writes
      rw [ended'] at writes'
      rw [put, writeText, runIn_bind_of_error writes, runIn_bind_of_error writes']
      exact ⟨rfl, rfl, .inl ⟨rfl, rfl⟩⟩
    · rw [ended] at writes
      rw [ended'] at writes'
      rw [put, writeText, runIn_bind_of_error writes, runIn_bind_of_error writes']
      exact ⟨rfl, rfl, .inr ⟨part, written, written'⟩⟩
    · rw [ended] at writes
      rw [ended'] at writes'
      rw [put, writeText, runIn_bind_of_ok writes, runIn_bind_of_ok writes']
      exact ⟨rfl, rfl, .inr ⟨text.toUTF8, written, written'⟩⟩

/-! ## What does not matter -/

theorem lowering_congr (native : cs.native = cs'.native)
    (optimizer : cs.optimizer = cs'.optimizer) :
    lowering p cs = lowering p cs' := by
  simp only [lowering, nativeText, Components.requireNative, native, optimizer]

/-- **The other backend's components are not asked, and its template is not read.** -/
theorem sameDoing_dispatch_native (native : cs.native = cs'.native)
    (optimizer : cs.optimizer = cs'.optimizer) (tree : w.store.SameTree t)
    (same : w.store.locate (dir.child (name ++ ".asm")) = t.locate (dir.child (name ++ ".asm"))) :
    SameDoing (dir.child (name ++ ".asm")) w.store t
      ((dispatch p .native cs dir name template).runIn w)
      ((dispatch p .native cs' dir name template').runIn { w with store := t }) := by
  rw [dispatch_native_eq, dispatch_native_eq, ← lowering_congr native optimizer]
  obtain ⟨r, events, talked⟩ := talks_lowering p cs
  cases r with
  | error e =>
    rw [runIn_bind_of_error (talked w), runIn_bind_of_error (talked { w with store := t })]
    exact ⟨rfl, rfl, .inl ⟨rfl, rfl⟩⟩
  | ok text =>
    rw [runIn_bind_of_ok (talked w), runIn_bind_of_ok (talked { w with store := t })]
    exact sameDoing_put (w := w.saying events) tree same _ _ text

theorem dispatch_vm_congr (h : cs.bytecode = cs'.bytecode) :
    dispatch p .vm cs dir name template = dispatch p .vm cs' dir name template := by
  cases template with
  | none => rfl
  | some path => simp only [dispatch, generateVm, generateBytecode, h]

/-! ## What is changed -/

/-- If the bytecode cannot be had, then nothing is changed. -/
theorem generateVm_of_vmBytes_error (failed : (vmBytes p cs path).runIn w = (.error e, v))
    (bytecode assembly : Path) :
    (generateVm p cs bytecode assembly path).runIn w = (.error e, v) ∧ v.store = w.store := by
  rw [generateVm_eq]
  exact ⟨runIn_bind_of_error (runIn_bind_of_error failed _) _,
    (looks_vmBytes_alone.of_runIn failed).1⟩

/-- A boot loader that is not completed leaves the file of its bytecode at most, unless its text was
begun to be written. -/
theorem generateVm_error_cases
    (h : (generateVm p cs bytecode assembly path).runIn w = (.error e, v)) :
    Store.ChangesOnly [bytecode] w.store v.store ∨
      ∃ u content fault, Store.Written w.store [bytecode] u ∧
        u.CutShort assembly content fault v.store ∧ e = fault.failure assembly := by
  rw [generateVm_eq] at h
  obtain ⟨done, start, written, all⟩ := writes_vmText p cs bytecode path w
  match ran : (vmText p cs bytecode path).runIn w with
  | (.error e', u) =>
    rw [runIn_bind_of_error ran] at h
    obtain ⟨-, rfl⟩ := Prod.mk.inj h
    rw [ran] at written
    exact .inl (written.changesOnly start.subset)
  | (.ok text, u) =>
    rw [runIn_bind_of_ok ran] at h
    rw [ran] at written all
    obtain rfl := all text rfl
    rcases runIn_put_error h with rfl | ⟨fault, cut, failed⟩
    · exact .inl (written.changesOnly (List.Subset.refl _))
    · exact .inr ⟨u.store, _, fault, written, cut, failed⟩

/-! ## Both together -/

/-- The run fails and leaves the files as they are. -/
def LeavesAlone (s : Store) (run : Except Failure Artifacts × World) : Prop :=
  (∃ e, run.1 = .error e) ∧ run.2.store = s

theorem leavesAlone_dispatch_native (refused : (cs.bootSector p >>= cs.optimized) = .error f)
    (template : Option Path) (w : World) :
    LeavesAlone w.store ((dispatch p .native cs dir name template).runIn w) := by
  rw [dispatch_native_eq]
  obtain ⟨r, events, talked⟩ := talks_lowering p cs
  cases r with
  | error e =>
    rw [runIn_bind_of_error (talked w)]
    exact ⟨⟨e, rfl⟩, rfl⟩
  | ok text =>
    -- there is no text, since one of the two has refused
    obtain ⟨_, _, _, lowered⟩ := runIn_bind_eq_ok_iff.1 (talked w)
    obtain ⟨raw, generated, optimized⟩ := runIn_nativeText lowered
    rw [generated] at refused
    exact nomatch optimized.symm.trans refused

theorem leavesAlone_generateVm
    (refused : w.store.isFile path = false ∨ ∃ f, cs.blob p = .error f) :
    LeavesAlone w.store ((generateVm p cs bytecode assembly path).runIn w) := by
  match ran : (vmBytes p cs path).runIn w with
  | (.error e, v) =>
    obtain ⟨failed, kept⟩ := generateVm_of_vmBytes_error ran bytecode assembly
    rw [failed]
    exact ⟨⟨e, rfl⟩, kept⟩
  | (.ok bytes, v) =>
    obtain ⟨-, there, u, generated⟩ := runIn_vmBytes ran
    rcases refused with absent | ⟨f, failed⟩
    · have there := Store.isFile_iff.2 (read_of_finds_isFile there).2
      exact nomatch there.symm.trans absent
    · obtain ⟨blob, made, -⟩ := runIn_generateBytecode generated
      exact nomatch made.symm.trans failed

/-- The layout is reported before the virtual machine's way is taken, or the report has failed. -/
theorem runIn_dispatch_vm_cases (p : Program) (cs : Components) (dir path : Path) (name : String)
    (w : World) :
    (∃ e v, v.store = w.store ∧
      (dispatch p .vm cs dir name (some path)).runIn w = (.error e, v)) ∨
    ∃ v, v.store = w.store ∧ (dispatch p .vm cs dir name (some path)).runIn w =
      (generateVm p cs (dir.child (name ++ ".rombin")) (dir.child (name ++ "-vm.asm"))
        path).runIn v := by
  obtain ⟨r, events, talked⟩ := talks_reportLayout (p := p)
  rw [dispatch]
  cases r with
  | error e => exact .inl ⟨e, w.saying events, rfl, runIn_bind_of_error (talked w) _⟩
  | ok _ => exact .inr ⟨w.saying events, rfl, by rw [runIn_bind_of_ok (talked w)]⟩

/-- Without a template nothing is written. -/
theorem leavesAlone_dispatch_vm_none (p : Program) (cs : Components) (dir : Path) (name : String)
    (w : World) : LeavesAlone w.store ((dispatch p .vm cs dir name none).runIn w) := by
  have looks : Looks w.store w.store (dispatch p .vm cs dir name none) :=
    looks_reportLayout.next fun _ => looks_throw _
  match ran : (dispatch p .vm cs dir name none).runIn w with
  | (.error e, v) => exact ⟨⟨e, rfl⟩, (looks.of_runIn ran).1⟩
  | (.ok artifacts, v) =>
    obtain ⟨-, text, lowers⟩ := lowers_of_dispatch ran
    exact nomatch lowers

theorem leavesAlone_dispatch_vm
    (refused : w.store.isFile path = false ∨ ∃ f, cs.blob p = .error f) :
    LeavesAlone w.store ((dispatch p .vm cs dir name (some path)).runIn w) := by
  rcases runIn_dispatch_vm_cases p cs dir path name w with ⟨e, v, kept, ran⟩ | ⟨v, kept, ran⟩
  · rw [ran]
    exact ⟨⟨e, rfl⟩, kept⟩
  · rw [← kept] at refused ⊢
    rw [ran]
    exact leavesAlone_generateVm refused

/-- A dispatch that fails in the end has changed the file of its bytecode at most, unless the boot
loader's text was begun to be written. -/
theorem dispatch_vm_error_cases {template : Option Path}
    (ran : (dispatch p .vm cs dir name template).runIn w = (.error e, v)) :
    Store.ChangesOnly [dir.child (name ++ ".rombin")] w.store v.store ∨
      ∃ u content fault, Store.Written w.store [dir.child (name ++ ".rombin")] u ∧
        u.CutShort (dir.child (name ++ "-vm.asm")) content fault v.store ∧
        e = fault.failure (dir.child (name ++ "-vm.asm")) := by
  cases template with
  | none =>
    have kept := (leavesAlone_dispatch_vm_none p cs dir name w).2
    rw [ran] at kept
    rw [← kept]
    exact .inl (.refl _ _)
  | some path =>
    rcases runIn_dispatch_vm_cases p cs dir path name w with
      ⟨e', u, kept, ran'⟩ | ⟨u, kept, ran'⟩
    · obtain ⟨-, rfl⟩ := Prod.mk.inj (ran'.symm.trans ran)
      rw [kept]
      exact .inl (.refl _ _)
    · rw [← kept]
      exact generateVm_error_cases (ran'.symm.trans ran)

/-- What a native dispatch depends on, and what it changes. -/
structure ApartNative (p : Program) (dir : Path) (name : String) : Prop where
  /-- It is the native generator and the optimizer that count.  The other components make no
  difference, nor does the template, whether it is there or not and whatever it holds, if the
  output is not behind it. -/
  same (cs cs' : Components) (template template' : Option Path) (file : Path) (w : World)
    (t : Store) : cs.native = cs'.native → cs.optimizer = cs'.optimizer →
    Store.AgreeBut [file] w.store t →
    (∀ l, w.store.locate file = .ok l → ¬ w.store.Passes (dir.child (name ++ ".asm")) l) →
    SameDoing (dir.child (name ++ ".asm")) w.store t
      ((dispatch p .native cs dir name template).runIn w)
      ((dispatch p .native cs' dir name template').runIn { w with store := t })
  changes (cs : Components) (template : Option Path) (w : World) :
    Store.ChangesOnly [dir.child (name ++ ".asm")] w.store
      ((dispatch p .native cs dir name template).runIn w).2.store
  refused (cs : Components) (template : Option Path) (w : World) (f : Failure) :
    (cs.bootSector p >>= cs.optimized) = .error f →
    LeavesAlone w.store ((dispatch p .native cs dir name template).runIn w)

/-- What a dispatch through the virtual machine depends on, and what it changes. -/
structure ApartVm (p : Program) (dir : Path) (name : String) : Prop where
  /-- It is the bytecode generator that counts, and no other component. -/
  same (cs cs' : Components) (template : Option Path) : cs.bytecode = cs'.bytecode →
    dispatch p .vm cs dir name template = dispatch p .vm cs' dir name template
  changes (cs : Components) (template : Option Path) (w : World) :
    Store.ChangesOnly [dir.child (name ++ ".rombin"), dir.child (name ++ "-vm.asm")] w.store
      ((dispatch p .vm cs dir name template).runIn w).2.store
  refused (cs : Components) (template : Option Path) (w : World) :
    ((∀ path, template = some path → w.store.isFile path = false) ∨ ∃ f, cs.blob p = .error f) →
    LeavesAlone w.store ((dispatch p .vm cs dir name template).runIn w)
  /-- A failure that comes later, in splicing or in writing.  A write of the text that was begun has
  come after the bytecode, and leaves its part of the text. -/
  failed (cs : Components) (template : Option Path) (w v : World) (e : Failure) :
    (dispatch p .vm cs dir name template).runIn w = (.error e, v) →
    Store.ChangesOnly [dir.child (name ++ ".rombin")] w.store v.store ∨
      ∃ u content fault, Store.Written w.store [dir.child (name ++ ".rombin")] u ∧
        u.CutShort (dir.child (name ++ "-vm.asm")) content fault v.store ∧
        e = fault.failure (dir.child (name ++ "-vm.asm"))
  spliced (cs : Components) (template file : Option Path) (w v : World) (fault : TemplateFault) :
    (dispatch p .vm cs dir name template).runIn w = (.error (.template fault file), v) →
    Store.ChangesOnly [dir.child (name ++ ".rombin")] w.store v.store

/-- **The backends keep apart.** -/
theorem backends_keep_apart (p : Program) (dir : Path) (name : String) :
    ApartNative p dir name ∧ ApartVm p dir name where
  left := {
    same := by
      intro cs cs' template template' file w t native optimizer agree passes
      refine sameDoing_dispatch_native native optimizer agree.toSameTree ?_
      refine agree.locate_eq_of_passes ?_
      intro q hq
      obtain rfl := List.mem_singleton.1 hq
      exact passes
    changes := fun _ template w => (writes_dispatch_native template).upTo.changesOnly w
    refused := fun _ template w _ refused => leavesAlone_dispatch_native refused template w }
  right := {
    same := fun _ _ _ bytecode => dispatch_vm_congr bytecode
    changes := fun _ template w => (writes_dispatch_vm template).upTo.changesOnly w
    refused := by
      rintro cs (_ | path) w refused
      · exact leavesAlone_dispatch_vm_none p cs dir name w
      · exact leavesAlone_dispatch_vm (refused.imp_left fun absent => absent path rfl)
    failed := fun _ _ _ _ _ ran => dispatch_vm_error_cases ran
    spliced := by
      intro cs template file w v fault ran
      rcases dispatch_vm_error_cases ran with changes | ⟨_, _, met, _, _, failed⟩
      · exact changes
      · exact absurd failed.symm (met.failure_ne_template _ _ _) }

namespace Sample

/-- The output directory without the boot loader beside it. -/
def bare : Store := store.erase ["loader.asm"]

/-- A native generator of one line, and no bytecode generator. -/
def natively : Components where
  native := some {
    shape := .service
    native := some { bootSector := fun _ _ _ => .ok "hlt\n", assembly := fun _ _ => .ok "hlt\n" } }
  bytecode := { shape := .nothing }

theorem agreeBut_templatePath : Store.AgreeBut [templatePath] store bare := by
  have elsewhere (l : Location) (h : l ≠ ["loader.asm"]) : store.get? l = bare.get? l :=
    (Store.get?_erase_of_ne store h).symm
  refine ⟨⟨rfl, rfl, ?_⟩, ?_⟩
  · intro l
    by_cases h : l = ["loader.asm"]
    · rw [h]
      exact iff_of_false nofun nofun
    · rw [elsewhere l h]
  · intro l away
    refine elsewhere l ?_
    rintro rfl
    exact away templatePath List.mem_cons_self rfl

theorem not_passes_templatePath (l : Location) (led : store.locate templatePath = .ok l) :
    ¬ store.Passes (outputDir.child ("hello" ++ ".asm")) l := by
  obtain rfl : ["loader.asm"] = l := Except.ok.inj led
  rintro ⟨k, short, came⟩
  have two : (outputDir.child ("hello" ++ ".asm")).parts.length = 2 := rfl
  rw [two] at short
  match k, short with
  | 0, _ => exact nomatch came
  | 1, _ => exact absurd (Except.ok.inj came) (by decide)

end Sample

/-- The theorem applies to a file system with the boot loader, and to one without. -/
theorem hello_needs_no_loader :
    Store.AgreeBut [Sample.templatePath] Sample.store Sample.bare ∧
    (∀ l, Sample.store.locate Sample.templatePath = .ok l →
      ¬ Sample.store.Passes (Sample.outputDir.child ("hello" ++ ".asm")) l) ∧
    ((dispatch {} .native Sample.natively Sample.outputDir "hello" none).runIn
      { store := Sample.bare }).1 = .ok (.ofMode Sample.outputDir "hello" .native) ∧
    SameDoing (Sample.outputDir.child ("hello" ++ ".asm")) Sample.store Sample.bare
      ((dispatch {} .native Sample.natively Sample.outputDir "hello"
        (some Sample.templatePath)).runIn { store := Sample.store })
      ((dispatch {} .native { Sample.natively with bytecode := .bytecodeWriter } Sample.outputDir
        "hello" none).runIn { store := Sample.bare }) ∧
    LeavesAlone Sample.bare
      ((dispatch {} .vm Sample.components Sample.outputDir "hello"
        (some Sample.templatePath)).runIn { store := Sample.bare }) := by
  have agree := Sample.agreeBut_templatePath
  have passes := Sample.not_passes_templatePath
  obtain ⟨native, vm⟩ := backends_keep_apart {} Sample.outputDir "hello"
  refine ⟨agree, passes, rfl, ?_, ?_⟩
  · exact native.same Sample.natively _ (some Sample.templatePath) none Sample.templatePath
      { store := Sample.store } Sample.bare rfl rfl agree passes
  · refine vm.refused Sample.components (some Sample.templatePath) { store := Sample.bare } ?_
    refine .inl ?_
    rintro _ ⟨⟩
    rfl

/-- A name may lead the way to the output through the template.  Then there are two reasons why the
output cannot be written, and which one it is depends on the template. -/
theorem template_in_the_way :
    Store.AgreeBut [Sample.templatePath] Sample.store Sample.bare ∧
    ((dispatch {} .native Sample.natively (.ofText ".") "loader.asm/hello"
      (some Sample.templatePath)).runIn { store := Sample.store }).1 =
        .error (.system .notDirectory (.onPath (.ofText "loader.asm/hello.asm"))) ∧
    ((dispatch {} .native Sample.natively (.ofText ".") "loader.asm/hello"
      (some Sample.templatePath)).runIn { store := Sample.bare }).1 =
        .error (.system .missing (.onPath (.ofText "loader.asm/hello.asm"))) :=
  ⟨Sample.agreeBut_templatePath, rfl, rfl⟩

end BootLink.Backend
