/-
# `BootLink.Proofs.Backend.Lowering` — what a backend has done that succeeds

    cs.bootSector p       the text that the native generator makes
    cs.optimized text     what the optimizer makes of a text
    cs.blob p             the bytecode, with what its generator reports

    Lowers p cs dir name mode template s text t

The last one says all that a backend does to the files: from `s` to `t` the program is lowered to
the assembly text `text`.  The native way writes the text and nothing else.  The other one writes
the bytecode first and reads the template after that, so it is read in the files that hold the
bytecode already.  Both write the assembly text last, and it is there afterwards (`Lowers.read`).

A backend that ends with an answer has lowered its program (`lowers_of_dispatch`); failures and what
is logged are left to the modules about them.
-/
import BootLink.Proofs.Backend.Texts
import BootLink.Proofs.Build.Stages

namespace BootLink

namespace Components

/-- The text that the native generator makes of a program. -/
def bootSector (cs : Components) (p : Program) : Except Failure String := do
  let native ← cs.requireNative
  let generate ← native.generateBootSector
  generate p.instructions p.data p.labels

/-- What the optimizer makes of a text. -/
def optimized (cs : Components) (text : String) : Except Failure String := do
  let optimize ← cs.optimizer.optimize
  optimize text

/-- The bytecode of a program. -/
def blob (cs : Components) (p : Program) : Except Failure Blob := do
  let generate ← cs.bytecode.generate
  generate p

end Components

/-- The suffix of the assembly text. -/
def Mode.assemblySuffix : Mode → String
  | .native => ".asm"
  | .vm => "-vm.asm"

/-- The file of the bytecode, if there is one. -/
def Mode.bytecodeSuffix? : Mode → Option String
  | .native => none
  | .vm => some ".rombin"

/-- The files of a backend, by their names. -/
def Artifacts.ofMode (dir : Path) (name : String) (mode : Mode) : Artifacts where
  mode := mode
  assembly := dir.child (name ++ mode.assemblySuffix)
  bytecode := mode.bytecodeSuffix?.map fun suffix => dir.child (name ++ suffix)

namespace Backend

open BootLink.Task

/-- From files `s` to files `t` the program is lowered to an assembly text. -/
inductive Lowers (p : Program) (cs : Components) (dir : Path) (name : String) :
    Mode → Option Path → Store → String → Store → Prop
  | native {template : Option Path} {s t : Store} {raw text : String}
      (generated : cs.bootSector p = .ok raw) (optimized : cs.optimized raw = .ok text)
      (written : s.write (dir.child (name ++ ".asm")) text.toUTF8 = .ok t) :
      Lowers p cs dir name .native template s text t
  | vm {template : Path} {s u t : Store} {blob : Blob} {frame text : String}
      (generated : cs.blob p = .ok blob)
      (stored : s.write (dir.child (name ++ ".rombin")) blob.bytes = .ok u)
      (read : Finds u (readText template) (.ok frame))
      (spliced : Template.splice frame blob.bytes.data.toList = .ok text)
      (written : u.write (dir.child (name ++ "-vm.asm")) text.toUTF8 = .ok t) :
      Lowers p cs dir name .vm (some template) s text t

section
variable {p : Program} {cs : Components} {dir bytecode assembly template : Path} {name : String}
  {mode : Mode} {w v : World} {artifacts : Artifacts} {s t : Store} {text : String}

/-- **The text that was lowered to is what the assembly file holds.** -/
theorem Lowers.read {template : Option Path} (h : Lowers p cs dir name mode template s text t) :
    t.read (dir.child (name ++ mode.assemblySuffix)) = .ok text.toUTF8 := by
  cases h with
  | native _ _ written => exact Store.read_of_write written
  | vm _ _ _ _ written => exact Store.read_of_write written

/-! ## Runs -/

theorem runIn_ask_eq_ok_iff {α : Type} {what : String} {answer : Except Failure α} {a : α} :
    (ask what answer).runIn w = (.ok a, v) ↔ answer = .ok a ∧ w = v := by
  rw [ask, runIn_ofExcept_eq_ok_iff]
  cases answer with
  | ok b => rfl
  | error e => exact and_congr_left fun _ => iff_of_false nofun nofun

theorem runIn_nativeText (h : (nativeText p cs).runIn w = (.ok text, v)) :
    ∃ raw, cs.bootSector p = .ok raw ∧ cs.optimized raw = .ok text := by
  obtain ⟨native, _, required, h⟩ := runIn_bind_eq_ok_iff.1 h
  obtain ⟨_, _, _, h⟩ := runIn_bind_eq_ok_iff.1 h
  obtain ⟨generate, _, offered, h⟩ := runIn_bind_eq_ok_iff.1 h
  obtain ⟨raw, _, generated, h⟩ := runIn_bind_eq_ok_iff.1 h
  obtain ⟨_, _, _, h⟩ := runIn_bind_eq_ok_iff.1 h
  obtain ⟨optimize, _, optimizes, optimized⟩ := runIn_bind_eq_ok_iff.1 h
  refine ⟨raw, ?_, ?_⟩
  · rw [Components.bootSector, (runIn_ofExcept_eq_ok_iff.1 required).1]
    simp only [bind, Except.bind]
    rw [(runIn_ofExcept_eq_ok_iff.1 offered).1]
    exact (runIn_ask_eq_ok_iff.1 generated).1
  · rw [Components.optimized, (runIn_ofExcept_eq_ok_iff.1 optimizes).1]
    exact (runIn_ask_eq_ok_iff.1 optimized).1

theorem runIn_generateBytecode {bytes : ByteArray}
    (h : (generateBytecode p cs).runIn w = (.ok bytes, v)) :
    ∃ blob, cs.blob p = .ok blob ∧ bytes = blob.bytes := by
  obtain ⟨generate, _, offered, h⟩ := runIn_bind_eq_ok_iff.1 h
  obtain ⟨blob, _, generated, h⟩ := runIn_bind_eq_ok_iff.1 h
  obtain ⟨_, _, _, h⟩ := runIn_bind_eq_ok_iff.1 h
  refine ⟨blob, ?_, (Except.ok.inj (Prod.mk.inj h).1).symm⟩
  rw [Components.blob, (runIn_ofExcept_eq_ok_iff.1 offered).1]
  exact (runIn_ask_eq_ok_iff.1 generated).1

theorem runIn_generateNative {output : Path}
    (h : (generateNative p cs output).runIn w = (.ok artifacts, v)) :
    ∃ raw text, cs.bootSector p = .ok raw ∧ cs.optimized raw = .ok text ∧
      w.store.write output text.toUTF8 = .ok v.store ∧
      artifacts = { mode := .native, assembly := output } := by
  rw [generateNative_eq] at h
  obtain ⟨text, w₁, lowered, h⟩ := runIn_bind_eq_ok_iff.1 h
  obtain ⟨raw, generated, optimized⟩ := runIn_nativeText lowered
  obtain ⟨written, rfl⟩ := runIn_put h
  rw [(looks_nativeText.of_runIn lowered).1] at written
  exact ⟨raw, text, generated, optimized, written, rfl⟩

/-- A native dispatch whose text is generated and can be written. -/
theorem ends_dispatch_native {template : Option Path}
    (reported : Finds s (reportLayout p) (.ok ⟨⟩)) (lowered : Finds s (nativeText p cs) (.ok text))
    (valid : (dir.child (name ++ ".asm")).isValid = true)
    (written : s.writeOut (dir.child (name ++ ".asm")) text.toUTF8 = (.ok ⟨⟩, t)) :
    Ends s (dispatch p .native cs dir name template) (.ok (.ofMode dir name .native)) t := by
  refine reported.bind ?_
  dsimp only
  rw [generateNative_eq]
  refine lowered.bind ((ends_writeBytes valid written).bind ?_)
  exact (finds_info _).bind (finds_pure _)

theorem runIn_generateVm {template : Path}
    (h : (generateVm p cs bytecode assembly template).runIn w = (.ok artifacts, v)) :
    ∃ blob u frame text, cs.blob p = .ok blob ∧ w.store.write bytecode blob.bytes = .ok u ∧
      Finds u (readText template) (.ok frame) ∧
      Template.splice frame blob.bytes.data.toList = .ok text ∧
      u.write assembly text.toUTF8 = .ok v.store ∧
      artifacts = { mode := .vm, assembly, bytecode := some bytecode } := by
  rw [generateVm_eq] at h
  obtain ⟨text, w₁, lowered, h⟩ := runIn_bind_eq_ok_iff.1 h
  obtain ⟨bytes, w₂, made, lowered⟩ := runIn_bind_eq_ok_iff.1 lowered
  obtain ⟨_, w₃, stored, embedded⟩ := runIn_bind_eq_ok_iff.1 lowered
  obtain ⟨before, -, u, generated⟩ := runIn_vmBytes made
  obtain ⟨blob, generates, rfl⟩ := runIn_generateBytecode generated
  obtain ⟨after, frame, read, spliced⟩ := runIn_embed embedded
  obtain ⟨written, rfl⟩ := runIn_put h
  have stored := store_of_runIn_writeBytes stored
  rw [before] at stored
  rw [after] at written
  exact ⟨blob, w₃.store, frame, text, generates, stored, read, spliced, written, rfl⟩

/-- **A backend that ends with an answer has lowered its program.** -/
theorem lowers_of_dispatch {template : Option Path}
    (h : (dispatch p mode cs dir name template).runIn w = (.ok artifacts, v)) :
    artifacts = .ofMode dir name mode ∧
      ∃ text, Lowers p cs dir name mode template w.store text v.store := by
  unfold dispatch at h
  obtain ⟨_, w₁, reported, h⟩ := runIn_bind_eq_ok_iff.1 h
  have same := (looks_reportLayout.of_runIn reported).1
  cases mode with
  | native =>
      obtain ⟨raw, text, generated, optimized, written, rfl⟩ := runIn_generateNative h
      exact ⟨rfl, text, .native generated optimized (same ▸ written)⟩
  | vm =>
      cases template with
      | none => exact nomatch h
      | some template =>
          obtain ⟨blob, u, frame, text, made, stored, read, spliced, written, rfl⟩ :=
            runIn_generateVm h
          exact ⟨rfl, text, .vm made (same ▸ stored) read spliced written⟩

end

end Backend

namespace Build

open BootLink.Task

/-- A build that comes to the search for the assembler has lowered its program. -/
theorem lowers_of_lower {config : Config} {cs : Components} {name : String} {mode : Mode}
    {p : Program} {skipped : List String} {artifacts : Artifacts} {w v : World}
    (h : (lower config cs name mode).runIn w = (.ok (p, skipped, artifacts), v)) :
    artifacts = .ofMode config.outputDir name mode ∧
      ∃ s text, Backend.Lowers p cs config.outputDir name mode
        (if mode = .vm then some config.templatePath else none) s text v.store := by
  obtain ⟨⟨program, _⟩, w₁, _, h⟩ := runIn_bind_eq_ok_iff.1 h
  obtain ⟨made, w₂, generated, h⟩ := runIn_bind_eq_ok_iff.1 h
  obtain ⟨answer, rfl⟩ := Prod.mk.inj h
  obtain ⟨rfl, -, rfl⟩ : program = p ∧ _ ∧ made = artifacts := by simpa using Except.ok.inj answer
  obtain ⟨_, w₃, _, dispatched⟩ := runIn_bind_eq_ok_iff.1 generated
  obtain ⟨rfl, text, lowers⟩ := Backend.lowers_of_dispatch dispatched
  exact ⟨rfl, w₃.store, text, lowers⟩

end Build

end BootLink
