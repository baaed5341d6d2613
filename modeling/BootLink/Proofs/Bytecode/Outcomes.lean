/-
# `BootLink.Proofs.Bytecode.Outcomes` — what the bytecode generator answers

A program is encoded or refused (`BootLink.Proofs.Bytecode.Refusals`), and the generator turns a
refusal into its failure by putting it into words.  No text holds a number of more than 4300 digits.
So there is a third way to end: a program is refused for such a number, an address past every field
say, and what fails is the message about it, without the instruction's index.  `ofProgram_outcomes`
tells the three ways apart; `distant_label_not_told` is the smallest program of the third kind.
-/
import BootLink.Component
import BootLink.Proofs.Bytecode.Refusals

namespace BootLink

/-! ## What comes of a program -/

namespace Blob

variable {p : Program}

theorem exists_ofProgram_iff : (∃ blob, ofProgram p = .ok blob) ↔ p.Encodable := by
  rw [← Bytecode.exists_encode_iff]
  unfold ofProgram
  cases Bytecode.encode p <;> simp

theorem ofProgram_eq_error_iff {failure : Failure} :
    ofProgram p = .error failure ↔ ∃ fault, p.Refused fault ∧ failure = .ofGeneration fault := by
  simp only [← Bytecode.encode_eq_error_iff]
  unfold ofProgram
  cases Bytecode.encode p <;> simp [eq_comm]

theorem ofGeneration_eq_generation_iff {fault fault' : GenerationFault} :
    Failure.ofGeneration fault' = .generation fault ↔
      fault'.isWritable = true ∧ fault' = fault := by
  unfold Failure.ofGeneration Failure.longNumeral
  split <;> simp [*]

theorem ofGeneration_eq_longNumeral_iff {fault : GenerationFault} :
    Failure.ofGeneration fault = .longNumeral ↔ fault.isWritable = false := by
  unfold Failure.ofGeneration Failure.longNumeral
  split <;> simp [*]

/-- The first instruction that cannot be encoded is the one that is told of. -/
theorem exists_refused_atInstruction {k : Nat} {i : Instruction}
    (few : p.instructions.length ≤ 0xFFFF) (hi : p.instructions[k]? = some i)
    (before : ∀ i' ∈ p.instructions.take k, i'.Encodable p.labels.get?)
    (unfit : ¬i.Encodable p.labels.get?) :
    ∃ fault, i.Refused p.labels.get? fault ∧ p.Refused (.atInstruction k fault) := by
  cases encoded : Bytecode.encodeInstruction p.labels.get? i with
  | ok bytes => exact absurd (Bytecode.exists_encodeInstruction_iff.mp ⟨bytes, encoded⟩) unfit
  | error fault =>
      have refused := Bytecode.encodeInstruction_eq_error_iff.mp encoded
      exact ⟨fault, refused, .code (.entry few ⟨before, i, hi, refused⟩)⟩

/-- **What comes of a program.**  It has bytecode just if it is encodable.  Otherwise it is refused,
and the generator's failure is that refusal, provided that the numbers in it may be written; if they
may not, the failure is about the number, whatever it was refused for.  With no such number in the
program the first is the only way to fail.  Where the instructions are not too many and one of them
cannot be encoded, the refusal tells the index of the first of these. -/
theorem ofProgram_outcomes (p : Program) :
    ((∃ blob, ofProgram p = .ok blob) ↔ p.Encodable) ∧
    (∀ fault, ofProgram p = .error (.generation fault) ↔
      p.Refused fault ∧ fault.isWritable = true) ∧
    (ofProgram p = .error .longNumeral ↔ ∃ fault, p.Refused fault ∧ fault.isWritable = false) ∧
    (∀ failure, ofProgram p = .error failure →
      failure = .longNumeral ∨ ∃ fault, failure = .generation fault) ∧
    (p.IsWritable → ofProgram p ≠ .error .longNumeral) ∧
    (∀ k i, p.instructions.length ≤ 0xFFFF → p.instructions[k]? = some i →
      (∀ i' ∈ p.instructions.take k, i'.Encodable p.labels.get?) → ¬i.Encodable p.labels.get? →
      ∃ fault, i.Refused p.labels.get? fault ∧ p.Refused (.atInstruction k fault) ∧
        (GenerationFault.atInstruction k fault).message =
          "instruction " ++ toString k ++ ": " ++ fault.message) := by
  refine ⟨exists_ofProgram_iff, fun fault => ?_, ?_, fun failure h => ?_, fun numbers h => ?_,
    fun k i few hi before unfit => ?_⟩
  · simp only [ofProgram_eq_error_iff, eq_comm (a := Failure.generation fault),
      ofGeneration_eq_generation_iff]
    constructor
    · rintro ⟨_, refused, writable, rfl⟩
      exact ⟨refused, writable⟩
    · rintro ⟨refused, writable⟩
      exact ⟨fault, refused, writable, rfl⟩
  · simp only [ofProgram_eq_error_iff, eq_comm (a := Failure.longNumeral),
      ofGeneration_eq_longNumeral_iff]
  · obtain ⟨fault, -, rfl⟩ := ofProgram_eq_error_iff.mp h
    unfold Failure.ofGeneration
    split
    · exact .inr ⟨fault, rfl⟩
    · exact .inl rfl
  · obtain ⟨fault, refused, long⟩ := ofProgram_eq_error_iff.mp h
    have short := ofGeneration_eq_longNumeral_iff.mp long.symm
    exact absurd ((refused.isWritable numbers).symm.trans short) (by decide)
  · obtain ⟨fault, refused, told⟩ := exists_refused_atInstruction few hi before unfit
    exact ⟨fault, refused, told, rfl⟩

end Blob

namespace Sample

/-- The second instruction names a register that there is not. -/
def misspelt : Program where
  instructions := [⟨.nop, []⟩, ⟨.push, [⟨.register, .name "IX", none, none⟩]⟩]

/-- Two units linked, where the second fixed a place in its code at the longest number there is.  It
has moved on by one. -/
def distant : Program where
  instructions := [⟨.nop, []⟩, ⟨.nop, []⟩]
  labels := ⟨[("far", Text.numeralBound)], by decide⟩
  tags := ⟨[("far", .code)], by decide⟩
  name := "start"
  origin := .linked ["start", "end"]

theorem encodable_nop (address? : String → Option Int) :
    Instruction.Encodable address? ⟨.nop, []⟩ := ⟨by decide, nofun⟩

theorem isWritable_misspelt : misspelt.IsWritable := by
  refine ⟨FitsWord.isWritable (by decide), ?_, FitsWord.isWritable (by decide), nofun,
    FitsWord.isWritable (by decide), nofun⟩
  simp [misspelt, Value.isWritable]

end Sample

namespace Blob

open Sample

/-- The index is that of the instruction, and the failure is the refusal. -/
theorem misspelt_refused :
    misspelt.instructions.length ≤ 0xFFFF ∧ misspelt.IsWritable ∧
      ofProgram misspelt =
        .error (.generation (.atInstruction 1 (.unknownRegister (.name "IX")))) ∧
      (GenerationFault.atInstruction 1 (.unknownRegister (.name "IX"))).message =
        "instruction 1: unknown register: IX" := by
  have few : misspelt.instructions.length ≤ 0xFFFF := by decide
  have before : ∀ i ∈ misspelt.instructions.take 1, i.Encodable misspelt.labels.get? := by
    intro i hi
    obtain rfl := List.mem_singleton.mp hi
    exact encodable_nop _
  have unfit : ¬Instruction.Encodable misspelt.labels.get?
      ⟨.push, [⟨.register, .name "IX", none, none⟩]⟩ := by
    rintro ⟨-, h⟩
    cases h _ List.mem_cons_self with
    | register _ name =>
        obtain ⟨s, hs, e⟩ := name
        obtain rfl := Value.name.inj e
        exact absurd hs (by decide)
    | immediate kind | label kind | segment kind | memoryAt kind | memoryBy kind =>
        exact nomatch kind
  obtain ⟨-, outcome, -, -, -, location⟩ := ofProgram_outcomes misspelt
  obtain ⟨fault, refused, told, message⟩ := location 1 _ few rfl before unfit
  obtain rfl : fault = .unknownRegister (.name "IX") := by
    cases refused with
    | opcode unknown => exact nomatch unknown
    | operand _ first =>
        obtain ⟨o, member, refused⟩ := first.exists_mem
        obtain rfl := List.mem_singleton.mp member
        cases refused with
        | register => rfl
        | immediate kind | label kind | target kind | labelAddress kind | segment kind
        | memoryAt kind | memoryBy kind | foreign kind => exact nomatch kind
  exact ⟨few, isWritable_misspelt, (outcome _).mpr ⟨told, rfl⟩, message⟩

/-- An address beyond every field is refused, but nothing can be said of it, and what comes out is
no refusal. -/
theorem distant_label_not_told :
    ofProgram distant = .error .longNumeral ∧ ∀ fault, Failure.longNumeral ≠ .generation fault := by
  have wide : ¬FitsWord Text.numeralBound := fun fits =>
    Bool.noConfusion (fits.isWritable.symm.trans Text.isWritable_numeralBound)
  have code : ∀ i ∈ distant.instructions, i.Encodable distant.labels.get? := by
    intro i hi
    rcases List.mem_cons.mp hi with rfl | hi
    · exact encodable_nop _
    · obtain rfl := List.mem_singleton.mp hi
      exact encodable_nop _
  have refused : distant.Refused (.tooWide (.addressOf "far") Text.numeralBound) :=
    .labels ⟨by decide, code⟩ ⟨by decide, nofun⟩
      (.entry (k := 0) (by decide) ⟨nofun, _, rfl, .address (by decide) wide⟩)
  refine ⟨ofProgram_eq_error_iff.mpr ⟨_, refused, ?_⟩, nofun⟩
  refine (ofGeneration_eq_longNumeral_iff.mpr ?_).symm
  rw [GenerationFault.isWritable, Text.isWritable_numeralBound]

end Blob

end BootLink
