/-
# `BootLink.Proofs.Build.Alone` — a program that is built without libraries

Linking a unit alone gives it back, so what a native build lowers is what the assembler made of the
source (`runIn_lower_alone`).  Of an assembled unit only the code counts for that: its instructions,
its data and its labels, and neither its name nor its tags (`bootSector_congr`).  Where an assembler
does not care for the names of files, equal sources give equal code (`sameCode_of_assembleFile`).
-/
import BootLink.Proofs.Backend.Lowering

namespace BootLink

/-- The same instructions, data and labels. -/
structure Program.SameCode (p q : Program) : Prop where
  instructions : p.instructions = q.instructions
  data : p.data = q.data
  labels : p.labels = q.labels

theorem Program.SameCode.symm {p q : Program} (h : p.SameCode q) : q.SameCode p :=
  ⟨h.instructions.symm, h.data.symm, h.labels.symm⟩

theorem Program.SameCode.trans {p q r : Program} (h : p.SameCode q) (h' : q.SameCode r) :
    p.SameCode r :=
  ⟨h.instructions.trans h'.instructions, h.data.trans h'.data, h.labels.trans h'.labels⟩

theorem Program.sameCode_asLinked (p : Program) : p.SameCode p.asLinked := by
  unfold Program.asLinked
  split <;> exact ⟨rfl, rfl, rfl⟩

/-- The native generator sees the code and nothing else. -/
theorem Components.bootSector_congr {p q : Program} (h : p.SameCode q) (cs : Components) :
    cs.bootSector p = cs.bootSector q := by
  simp only [Components.bootSector, h.instructions, h.data, h.labels]

/-- An assembler that does not care for the names of files. -/
def Component.IgnoresFileName (c : Component) : Prop :=
  ∀ assemble, c.assemble = .ok assemble →
    ∀ source file file', assemble source file = assemble source file'

namespace Build

open BootLink.Task

variable {config : Config} {cs : Components} {name role role' : String} {assembler : Component}
  {path path' : Path} {p q : Program} {s t : Store} {w v : World}

/-! ## One unit -/

theorem sameCode_named (path : Path) (p : Program) : (named path p).SameCode p := by
  unfold named
  split <;> exact ⟨rfl, rfl, rfl⟩

/-- Where a unit was assembled, the assembler has found nothing wrong with the text of its file. -/
theorem assembled_of_finds (h : Finds s (assembleFile assembler path role) (.ok p)) :
    ∃ source assemble result unit, Finds s (readText path) (.ok source) ∧
      assembler.assemble = .ok assemble ∧ assemble source path.text = .ok result ∧
      result.success? = some unit ∧ p = named path unit := by
  obtain ⟨v, h, _⟩ := h (w := { store := s }) rfl
  obtain ⟨there, w₁, looked, h⟩ := runIn_bind_eq_ok_iff.1 h
  have kept : w₁.store = s := ((looks_isFile (.refl _) fun _ _ => rfl).of_runIn looked).1
  cases there with
  | false =>
    obtain ⟨_, _, thrown, _⟩ := runIn_bind_eq_ok_iff.1 h
    exact nomatch thrown
  | true =>
    obtain ⟨source, w₂, read, h⟩ := runIn_bind_eq_ok_iff.1 h
    obtain ⟨assemble, w₃, offered, h⟩ := runIn_bind_eq_ok_iff.1 h
    obtain ⟨_, w₄, _, h⟩ := runIn_bind_eq_ok_iff.1 h
    obtain ⟨result, w₅, answered, h⟩ := runIn_bind_eq_ok_iff.1 h
    have found := ((looks_readText rfl).of_runIn read).2
    rw [kept] at found
    refine ⟨source, assemble, result, ?_⟩
    cases success : result.success? with
    | none =>
      rw [success] at h
      exact nomatch h
    | some unit =>
      rw [success] at h
      refine ⟨unit, found, (runIn_ofExcept_eq_ok_iff.1 offered).1,
        (runIn_ofExcept_eq_ok_iff.1 answered).1, rfl, ?_⟩
      exact (Except.ok.inj (Prod.mk.inj h).1).symm

/-- **Equal sources have equal code**, wherever their files are. -/
theorem sameCode_of_assembleFile (nameless : assembler.IgnoresFileName)
    (same : s.read path = t.read path')
    (h : Finds s (assembleFile assembler path role) (.ok p))
    (h' : Finds t (assembleFile assembler path' role') (.ok q)) : p.SameCode q := by
  obtain ⟨source, assemble, result, unit, read, offered, answered, success, rfl⟩ :=
    assembled_of_finds h
  obtain ⟨source', assemble', result', unit', read', offered', answered', success', rfl⟩ :=
    assembled_of_finds h'
  obtain ⟨content, decoded, holds, decodes, rfl⟩ := read_of_finds_readText read
  obtain ⟨content', decoded', holds', decodes', rfl⟩ := read_of_finds_readText read'
  obtain rfl := Except.ok.inj (holds.symm.trans (same.trans holds'))
  obtain rfl := Except.ok.inj (decodes.symm.trans decodes')
  obtain rfl := Except.ok.inj (offered.symm.trans offered')
  rw [nameless assemble offered _ path.text path'.text] at answered
  obtain rfl := Except.ok.inj (answered.symm.trans answered')
  obtain rfl := Option.some.inj (success.symm.trans success')
  exact (sameCode_named path unit).trans (sameCode_named path' unit).symm

/-! ## The whole program -/

theorem runIn_assemblePrimary (h : (assemblePrimary config cs name).runIn w = (.ok p, v)) :
    ∃ assembler, cs.requireAssembler = .ok assembler ∧
      Finds w.store (assembleFile assembler (config.sourcePath name) "source") (.ok p) := by
  obtain ⟨_, w₁, logged₁, h⟩ := runIn_bind_eq_ok_iff.1 h
  obtain ⟨_, w₂, logged₂, h⟩ := runIn_bind_eq_ok_iff.1 h
  obtain ⟨assembler, w₃, asked, h⟩ := runIn_bind_eq_ok_iff.1 h
  obtain ⟨required, rfl⟩ := runIn_ofExcept_eq_ok_iff.1 asked
  obtain ⟨unit, w₄, assembled, h⟩ := runIn_bind_eq_ok_iff.1 h
  obtain ⟨_, w₅, _, h⟩ := runIn_bind_eq_ok_iff.1 h
  obtain ⟨_, w₆, _, h⟩ := runIn_bind_eq_ok_iff.1 h
  have kept : w₂.store = w.store :=
    ((looks_info _).of_runIn logged₂).1.trans ((looks_info _).of_runIn logged₁).1
  have found := ((looks_assembleFile (.refl _) fun _ _ => rfl).of_runIn assembled).2
  rw [kept] at found
  obtain ⟨⟨⟩, -⟩ := Prod.mk.inj ((runIn_pure unit).symm.trans h)
  exact ⟨assembler, required, found⟩

theorem runIn_assembleLibraries_nil {found : List Program × List String}
    (alone : config.libraryPaths = [])
    (h : (assembleLibraries config cs).runIn w = (.ok found, v)) : found.1 = [] := by
  obtain ⟨assembler, w₁, _, h⟩ := runIn_bind_eq_ok_iff.1 h
  rw [alone] at h
  exact congrArg Prod.fst (Except.ok.inj (Prod.mk.inj h).1).symm

theorem runIn_gather_alone {mode : Mode} {skipped : List String} (alone : config.libraryPaths = [])
    (h : (gather config cs name mode).runIn w = (.ok (p, skipped), v)) :
    ∃ assembler unit, cs.requireAssembler = .ok assembler ∧
      Finds w.store (assembleFile assembler (config.sourcePath name) "source") (.ok unit) ∧
      p = unit.asLinked := by
  obtain ⟨_, w₁, logged, h⟩ := runIn_bind_eq_ok_iff.1 h
  obtain ⟨primary, w₂, assembled, h⟩ := runIn_bind_eq_ok_iff.1 h
  obtain ⟨⟨libraries, _⟩, w₃, loaded, h⟩ := runIn_bind_eq_ok_iff.1 h
  obtain rfl : libraries = [] := runIn_assembleLibraries_nil alone loaded
  obtain ⟨_, w₄, _, h⟩ := runIn_bind_eq_ok_iff.1 h
  obtain ⟨program, w₅, linked, h⟩ := runIn_bind_eq_ok_iff.1 h
  obtain ⟨assembler, required, found⟩ := runIn_assemblePrimary assembled
  rw [((looks_info _).of_runIn logged).1] at found
  have linked : primary.asLinked = program := Except.ok.inj (Prod.mk.inj linked).1
  obtain ⟨⟨⟩, -⟩ := Prod.mk.inj ((runIn_pure (program, _)).symm.trans h)
  exact ⟨assembler, primary, required, found, linked.symm⟩

/-- **A native build without libraries.**  What is lowered is the code of the one source file. -/
theorem runIn_lower_alone {prepared : Program × List String × Artifacts}
    (alone : config.libraryPaths = [])
    (h : (lower config cs name .native).runIn w = (.ok prepared, v)) :
    ∃ assembler unit raw text, cs.requireAssembler = .ok assembler ∧
      Finds w.store (assembleFile assembler (config.sourcePath name) "source") (.ok unit) ∧
      cs.bootSector unit = .ok raw ∧ cs.optimized raw = .ok text ∧
      v.store.read (config.output name ".asm") = .ok text.toUTF8 := by
  obtain ⟨p, skipped, artifacts⟩ := prepared
  obtain ⟨-, s, text, lowers⟩ := lowers_of_lower h
  obtain ⟨⟨gathered, _⟩, w₁, gathers, h⟩ := runIn_bind_eq_ok_iff.1 h
  obtain ⟨made, w₂, _, h⟩ := runIn_bind_eq_ok_iff.1 h
  obtain ⟨assembler, unit, required, found, linked⟩ := runIn_gather_alone alone gathers
  have same : gathered = p := congrArg Prod.fst (Except.ok.inj (Prod.mk.inj h).1)
  have code : unit.SameCode p := by
    rw [← same, linked]
    exact unit.sameCode_asLinked
  have read := lowers.read
  cases lowers with
  | native generated optimized written =>
    rw [← Components.bootSector_congr code] at generated
    exact ⟨assembler, unit, _, text, required, found, generated, optimized, read⟩

end Build

end BootLink
