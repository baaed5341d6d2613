/-
# `BootLink.Proofs.Backend.Texts` — a backend comes to a text and writes it

    nativeText p cs                     the text of the native way
    vmText p cs bytecode template       that of the other way: `vmBytes`, a write, and `embed`
    put output note artifacts text      the text is written, and the backend is done

Both ways end alike (`generateNative_eq`, `generateVm_eq`), so what is to be said of them is said of
these parts.  The native text takes no look at a file.  The text of the virtual machine's way is put
together after its bytecode was written, from a template that was seen to be there before.
-/
import BootLink.Backend
import BootLink.Proofs.World.Talks

namespace BootLink.Backend

open BootLink.Task

/-- The assembly text of the native way. -/
def nativeText (p : Program) (cs : Components) : Task String := do
  let native ← Task.ofExcept cs.requireNative
  Task.info "Generating x86 assembly..."
  let generate ← Task.ofExcept native.generateBootSector
  let text ← ask "x86 generator" (generate p.instructions p.data p.labels)
  Task.info "Optimizing x86 assembly..."
  let optimize ← Task.ofExcept cs.optimizer.optimize
  ask "optimizer" (optimize text)

/-- The bytecode for the boot loader, whose template must be there. -/
def vmBytes (p : Program) (cs : Components) (template : Path) : Task ByteArray := do
  if !(← Task.isFile template) then throw (.sourceNotFound template "template")
  Task.info "Generating Romasm bytecode..."
  generateBytecode p cs

/-- The boot loader's text around bytecode that was written. -/
def embed (bytecode template : Path) (blob : ByteArray) : Task String := do
  Task.info ("✓ Generated bytecode: " ++ bytecode.text ++ " (" ++ toString blob.size ++ " bytes)")
  Task.info "Creating VM bootloader image..."
  let text ← Task.readText template
  match Template.splice text blob.data.toList with
  | .error fault => throw (.template fault (some template))
  | .ok spliced => return spliced

/-- The assembly text of the virtual machine's way. -/
def vmText (p : Program) (cs : Components) (bytecode template : Path) : Task String := do
  let blob ← vmBytes p cs template
  Task.writeBytes bytecode blob
  embed bytecode template blob

/-- A backend writes the text that it came to, and says so. -/
def put (output : Path) (note : String) (artifacts : Artifacts) (text : String) :
    Task Artifacts := do
  Task.writeText output text
  Task.info note
  return artifacts

theorem generateNative_eq (p : Program) (cs : Components) (output : Path) :
    generateNative p cs output = nativeText p cs >>=
      put output ("✓ Generated x86 assembly: " ++ output.text)
        { mode := .native, assembly := output } := by
  simp only [generateNative, nativeText, bind_assoc]
  rfl

theorem generateVm_eq (p : Program) (cs : Components) (bytecode assembly template : Path) :
    generateVm p cs bytecode assembly template = vmText p cs bytecode template >>=
      put assembly ("✓ Generated VM bootloader: " ++ assembly.text)
        { mode := .vm, assembly, bytecode := some bytecode } := by
  simp only [generateVm, vmText, vmBytes, embed, bind_assoc]
  refine bind_congr ?_
  intro there
  cases there with
  | false => rfl
  | true =>
    simp only [Bool.not_true, Bool.false_eq_true, if_false, bind_assoc]
    refine bind_congr fun _ => bind_congr fun blob => bind_congr fun _ => bind_congr fun _ =>
      bind_congr fun _ => bind_congr fun text => ?_
    cases Template.splice text blob.data.toList with
    | error fault => rfl
    | ok spliced => rfl

variable {p : Program} {cs : Components} {bytecode template output : Path} {note text : String}
  {blob : ByteArray} {artifacts made : Artifacts} {s t : Store} {w v : World} {e : Failure}

/-! ## Parts that talk -/

theorem talks_ask {α : Type} (what : String) (answer : Except Failure α) :
    Talks (ask what answer) := talks_ofExcept _

theorem talks_reportLayout : Talks (reportLayout p) := by
  unfold reportLayout
  refine (talks_info _).bind fun _ => (talks_info _).bind fun _ => (talks_info _).bind fun _ => ?_
  refine talks_forM ?_ _
  intro label
  exact (talks_ofExcept _).bind fun line => talks_debug line

theorem talks_nativeText : Talks (nativeText p cs) := by
  unfold nativeText
  refine (talks_ofExcept _).bind fun native => (talks_info _).bind fun _ =>
    (talks_ofExcept _).bind fun generate => (talks_ask _ _).bind fun text => ?_
  exact (talks_info _).bind fun _ => (talks_ofExcept _).bind fun optimize => talks_ask _ _

theorem talks_generateBytecode : Talks (generateBytecode p cs) := by
  unfold generateBytecode unpack
  refine (talks_ofExcept _).bind fun generate => (talks_ask _ _).bind fun blob => ?_
  exact (talks_forM talks_debug blob.notes).bind fun _ => talks_pure _

/-! ## Parts that look -/

theorem looks_reportLayout : Looks s t (reportLayout p) := talks_reportLayout.looks

theorem looks_nativeText : Looks s t (nativeText p cs) := talks_nativeText.looks

theorem looks_generateBytecode : Looks s t (generateBytecode p cs) := talks_generateBytecode.looks

theorem looks_vmBytes (tree : s.SameTree t) (agree : Store.AgreeAt template s t) :
    Looks s t (vmBytes p cs template) := by
  unfold vmBytes
  refine (looks_isFile tree agree).next ?_
  intro there
  cases there with
  | false => exact looks_throw_bind _ _
  | true => exact (looks_info _).next fun _ => looks_generateBytecode

theorem looks_vmBytes_alone : Looks s s (vmBytes p cs template) :=
  looks_vmBytes (.refl s) fun _ _ => rfl

theorem looks_embed (read : s.read template = t.read template) :
    Looks s t (embed bytecode template blob) := by
  unfold embed
  refine (looks_info _).next fun _ => (looks_info _).next fun _ => (looks_readText read).next ?_
  intro text
  split
  · exact looks_throw _
  · exact looks_pure _

/-- Where there is bytecode, the template is there and a generator has answered. -/
theorem runIn_vmBytes (h : (vmBytes p cs template).runIn w = (.ok blob, v)) :
    v.store = w.store ∧ Finds w.store (isFile template) (.ok true) ∧
      ∃ u, (generateBytecode p cs).runIn u = (.ok blob, v) := by
  refine ⟨(looks_vmBytes_alone.of_runIn h).1, ?_⟩
  obtain ⟨there, w₁, looked, h⟩ := runIn_bind_eq_ok_iff.1 h
  have found := ((looks_isFile (.refl _) fun _ _ => rfl).of_runIn looked).2
  cases there with
  | false =>
    obtain ⟨_, _, thrown, _⟩ := runIn_bind_eq_ok_iff.1 h
    exact nomatch thrown
  | true =>
    obtain ⟨_, w₂, _, generated⟩ := runIn_bind_eq_ok_iff.1 h
    exact ⟨found, w₂, generated⟩

theorem runIn_embed (h : (embed bytecode template blob).runIn w = (.ok text, v)) :
    v.store = w.store ∧ ∃ frame, Finds w.store (readText template) (.ok frame) ∧
      Template.splice frame blob.data.toList = .ok text := by
  refine ⟨((looks_embed rfl).of_runIn h).1, ?_⟩
  obtain ⟨_, w₁, logged₁, h⟩ := runIn_bind_eq_ok_iff.1 h
  obtain ⟨_, w₂, logged₂, h⟩ := runIn_bind_eq_ok_iff.1 h
  obtain ⟨frame, w₃, read, h⟩ := runIn_bind_eq_ok_iff.1 h
  have found := ((looks_readText rfl).of_runIn read).2
  rw [((looks_info _).of_runIn logged₂).1, ((looks_info _).of_runIn logged₁).1] at found
  refine ⟨frame, found, ?_⟩
  cases spliced : Template.splice frame blob.data.toList with
  | error fault =>
    rw [spliced] at h
    exact nomatch h
  | ok text' =>
    rw [spliced] at h
    exact congrArg Except.ok (Except.ok.inj (Prod.mk.inj h).1)

/-! ## The part that writes -/

/-- The text is written, or a part of it, or the world stays as it is. -/
theorem runIn_put_cases (output : Path) (note : String) (artifacts : Artifacts) (text : String)
    (w : World) :
    (∃ e, (put output note artifacts text).runIn w = (.error e, w)) ∨
    (∃ fault s, w.store.CutShort output text.toUTF8 fault s ∧
      (put output note artifacts text).runIn w =
        (.error (fault.failure output), { w with store := s })) ∨
    ∃ s, w.store.write output text.toUTF8 = .ok s ∧
      (put output note artifacts text).runIn w = (.ok artifacts,
        { w with store := s, journal := w.journal.push (.log .info note) }) := by
  have writes := runIn_writeBytes (w := w) output text.toUTF8
  cases valid : output.isValid with
  | false =>
    rw [valid] at writes
    exact .inl ⟨_, runIn_bind_of_error writes _⟩
  | true =>
    rw [valid, if_pos rfl] at writes
    rcases w.store.writeOut_cases output text.toUTF8 with ⟨e, ended⟩ | ⟨fault, s, cut, ended⟩ |
      ⟨s, written, ended⟩
    · rw [ended] at writes
      exact .inl ⟨e, runIn_bind_of_error writes _⟩
    · rw [ended] at writes
      exact .inr (.inl ⟨fault, s, cut, runIn_bind_of_error writes _⟩)
    · rw [ended] at writes
      refine .inr (.inr ⟨s, written, ?_⟩)
      rw [put, writeText, runIn_bind_of_ok writes]
      rfl

theorem runIn_put (h : (put output note artifacts text).runIn w = (.ok made, v)) :
    w.store.write output text.toUTF8 = .ok v.store ∧ made = artifacts := by
  rcases runIn_put_cases output note artifacts text w with ⟨e, failed⟩ | ⟨fault, s, _, failed⟩ |
    ⟨s, written, ended⟩
  · exact nomatch failed.symm.trans h
  · exact nomatch failed.symm.trans h
  · obtain ⟨same, rfl⟩ := Prod.mk.inj (ended.symm.trans h)
    exact ⟨written, (Except.ok.inj same).symm⟩

/-- A text that could not be written has changed nothing, or was cut short. -/
theorem runIn_put_error (h : (put output note artifacts text).runIn w = (.error e, v)) :
    v = w ∨ ∃ fault, w.store.CutShort output text.toUTF8 fault v.store ∧
      e = fault.failure output := by
  rcases runIn_put_cases output note artifacts text w with ⟨e', failed⟩ | ⟨fault, s, cut, failed⟩ |
    ⟨s, -, ended⟩
  · exact .inl (congrArg Prod.snd (failed.symm.trans h)).symm
  · obtain ⟨same, rfl⟩ := Prod.mk.inj (failed.symm.trans h)
    exact .inr ⟨fault, cut, (Except.error.inj same).symm⟩
  · exact nomatch ended.symm.trans h

end BootLink.Backend
