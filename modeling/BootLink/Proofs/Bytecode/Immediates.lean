/-
# `BootLink.Proofs.Bytecode.Immediates` — what becomes of an immediate number

Counts and addresses must fit their fields, or the program is refused.  An immediate number is
reduced to sixteen bits, whatever it is.  So

    no program is refused for the size of one;
    two programs whose immediate numbers differ by multiples of 2^16 have the same bytecode;
    the bytes say the number that the program holds just if it is between -2^15 and 2^16 - 1,

where a word stands for a number that it is, and for one that it is the two's complement of
(`StandsFor`).  The three together are `immediates_wrap`; `wide_immediate_is_zero` is a program that
holds one number and says another.

The last of the three is about the bytes that stand for the operand, so it has to tell them from the
others.  The place of an operand is the number of bytes before it, which is a sum of sizes
(`operandPlace`), and what is read there is the operand (`readOperand_at_place`).
-/
import BootLink.Proofs.Bytecode.Decoding
import BootLink.Proofs.Bytecode.Refusals
import Mathlib.Algebra.GroupWithZero.Nat

namespace BootLink

/-! ## Sixteen bits -/

/-- The word stands for the number, read without a sign or with one. -/
def StandsFor (w : UInt16) (n : Int) : Prop := (w.toNat : Int) = n ∨ w.toInt16.toInt = n

theorem uint16_toNat_ofInt (n : Int) : ((UInt16.ofInt n).toNat : Int) = n % 0x10000 := by
  have low : 0 ≤ n % 0x10000 := Int.emod_nonneg n (by decide)
  have high : n % 0x10000 < 0x10000 := Int.emod_lt_of_pos n (by decide)
  rw [UInt16.ofInt, UInt16.toNat_ofNat']
  omega

theorem uint16_toInt_toInt16 (w : UInt16) :
    w.toInt16.toInt = if w.toNat < 0x8000 then (w.toNat : Int) else w.toNat - 0x10000 := by
  show w.toBitVec.toInt = _
  rw [BitVec.toInt_eq_toNat_cond, UInt16.toNat_toBitVec]
  by_cases small : w.toNat < 0x8000
  · rw [if_pos small, if_pos (by omega)]
  · rw [if_neg small, if_neg (by omega)]
    rfl

/-- **Sixteen bits are enough** just for these numbers. -/
theorem standsFor_ofInt_iff {n : Int} :
    StandsFor (UInt16.ofInt n) n ↔ -0x8000 ≤ n ∧ n ≤ 0xFFFF := by
  have reduced := uint16_toNat_ofInt n
  rw [StandsFor, uint16_toInt_toInt16]
  split <;> omega

/-! ## Programs with other immediate numbers -/

/-- The operand with another number, if it is an immediate number. -/
def Operand.mapImmediate (f : Int → Int) (o : Operand) : Operand :=
  match o.kind, o.value with
  | .immediate, .number n => { o with value := .number (f n) }
  | _, _ => o

def Instruction.mapImmediates (f : Int → Int) (i : Instruction) : Instruction :=
  { i with operands := i.operands.map (Operand.mapImmediate f) }

def Program.mapImmediates (f : Int → Int) (p : Program) : Program :=
  { p with instructions := p.instructions.map (Instruction.mapImmediates f) }

section
variable {f : Int → Int} {address? : String → Option Int} {fault : GenerationFault}

theorem Operand.mapImmediate_of_kind {o : Operand} (h : o.kind ≠ .immediate) :
    o.mapImmediate f = o := by
  unfold mapImmediate
  split
  · next kind _ => exact absurd kind h
  · rfl

theorem Operand.mapImmediate_of_value {o : Operand} (h : ∀ n, o.value ≠ .number n) :
    o.mapImmediate f = o := by
  unfold mapImmediate
  split
  · next value => exact absurd value (h _)
  · rfl

theorem Operand.mapImmediate_of_number {o : Operand} {n : Int} (kind : o.kind = .immediate)
    (value : o.value = .number n) : o.mapImmediate f = { o with value := .number (f n) } := by
  unfold mapImmediate
  rw [kind, value]

theorem Operand.Encodable.mapImmediate {o : Operand} (h : o.Encodable address?) :
    (o.mapImmediate f).Encodable address? := by
  by_cases kind : o.kind = .immediate
  · cases h with
    | immediate _ value =>
        rw [Operand.mapImmediate_of_number kind value]
        exact .immediate kind rfl
    | register k | label k | segment k | memoryAt k | memoryBy k => exact nomatch kind.symm.trans k
  · rwa [Operand.mapImmediate_of_kind kind]

/-- An immediate number is never what an operand is refused for. -/
theorem Operand.Refused.mapImmediate {o : Operand} (h : o.Refused address? fault) :
    (o.mapImmediate f).Refused address? fault := by
  by_cases kind : o.kind = .immediate
  · cases h with
    | immediate _ none =>
        rw [Operand.mapImmediate_of_value none]
        exact .immediate kind none
    | register k | label k | target k | labelAddress k | segment k | memoryAt k | memoryBy k
    | foreign k => exact nomatch kind.symm.trans k
  · rwa [Operand.mapImmediate_of_kind kind]

theorem FirstFault.map {α ε : Type} {fine : α → Prop} {fails : α → ε → Prop} {g : α → α}
    (hfine : ∀ x, fine x → fine (g x)) (hfails : ∀ x e, fails x e → fails (g x) e) {xs : List α}
    {k : Nat} {e : ε} (h : FirstFault fine fails xs k e) :
    FirstFault fine fails (xs.map g) k e := by
  obtain ⟨x, hx, fault⟩ := h.here
  refine ⟨fun y hy => ?_, g x, ?_, hfails x e fault⟩
  · rw [← List.map_take] at hy
    obtain ⟨x', hx', rfl⟩ := List.mem_map.mp hy
    exact hfine x' (h.before x' hx')
  · rw [List.getElem?_map, hx]
    rfl

theorem Instruction.Encodable.mapImmediates {i : Instruction} (h : i.Encodable address?) :
    (i.mapImmediates f).Encodable address? := by
  refine ⟨h.1, fun o ho => ?_⟩
  obtain ⟨o, member, rfl⟩ := List.mem_map.mp ho
  exact (h.2 o member).mapImmediate

theorem Instruction.Refused.mapImmediates {i : Instruction} (h : i.Refused address? fault) :
    (i.mapImmediates f).Refused address? fault := by
  cases h with
  | opcode unknown => exact .opcode unknown
  | operand known first =>
      exact .operand known
        (first.map (fun _ fits => fits.mapImmediate) fun _ _ refused => refused.mapImmediate)

theorem Program.mapImmediates_code {p : Program}
    (h : SectionFits (Instruction.Encodable p.labels.get?) p.instructions) :
    SectionFits (Instruction.Encodable p.labels.get?) (p.mapImmediates f).instructions := by
  refine ⟨?_, fun i hi => ?_⟩
  · show (p.instructions.map _).length ≤ _
    rw [List.length_map]
    exact h.count
  · obtain ⟨i, member, rfl⟩ := List.mem_map.mp hi
    exact (h.each i member).mapImmediates

theorem Program.Encodable.mapImmediates {p : Program} (h : p.Encodable) :
    (p.mapImmediates f).Encodable := ⟨mapImmediates_code h.code, h.data, h.labels⟩

theorem Program.Refused.mapImmediates {p : Program} (h : p.Refused fault) :
    (p.mapImmediates f).Refused fault := by
  cases h with
  | code h =>
      refine .code ?_
      show SectionRefused _ _ _ _ (p.instructions.map _) _
      cases h with
      | count many =>
          rw [← List.length_map (f := Instruction.mapImmediates f)] at many ⊢
          exact .count many
      | entry few first =>
          refine .entry (by rwa [List.length_map]) ?_
          exact first.map (fun _ fits => fits.mapImmediates)
            fun _ _ refused => refused.mapImmediates
  | data code h => exact .data (mapImmediates_code code) h
  | labels code data h => exact .labels (mapImmediates_code code) data h

end

namespace Bytecode

variable {address? : String → Option Int} {p : Program} {bytes : List UInt8}

/-- **No program is refused for the size of an immediate number**, and none is saved by it. -/
theorem encode_mapImmediates_eq_error_iff {f : Int → Int} {fault : GenerationFault} :
    encode (p.mapImmediates f) = .error fault ↔ encode p = .error fault := by
  cases encoded : encode p with
  | ok bytes =>
      have encodable : p.Encodable := exists_encode_iff.mp ⟨bytes, encoded⟩
      obtain ⟨bytes', encoded'⟩ := exists_encode_iff.mpr (encodable.mapImmediates (f := f))
      rw [encoded']
      exact ⟨nofun, nofun⟩
  | error fault' =>
      have refused : p.Refused fault' := encode_eq_error_iff.mp encoded
      rw [encode_eq_error_iff.mpr (refused.mapImmediates (f := f))]

section
variable {f : Int → Int} (same : ∀ n, f n % 0x10000 = n % 0x10000)
include same

theorem encodeOperand_mapImmediate (o : Operand) :
    encodeOperand address? (o.mapImmediate f) = encodeOperand address? o := by
  by_cases kind : o.kind = .immediate
  · cases value : o.value with
    | number n =>
        rw [Operand.mapImmediate_of_number kind value]
        unfold encodeOperand
        rw [kind, value]
        simp only [encodeImmediate, same]
    | absent | name s =>
        rw [Operand.mapImmediate_of_value (by simp [value])]
  · rw [Operand.mapImmediate_of_kind kind]

theorem encodeInstruction_mapImmediates (i : Instruction) :
    encodeInstruction address? (i.mapImmediates f) = encodeInstruction address? i := by
  have operands : encodeOperand address? ∘ Operand.mapImmediate f = encodeOperand address? :=
    funext fun o => encodeOperand_mapImmediate same o
  unfold encodeInstruction Instruction.mapImmediates
  simp only [List.mapM_map, operands]

/-- **Multiples of 2^16 leave no trace.** -/
theorem encode_mapImmediates (p : Program) : encode (p.mapImmediates f) = encode p := by
  refine encode_congr rfl rfl ?_
  show (p.instructions.map (Instruction.mapImmediates f)).map _ = _
  rw [List.map_map]
  exact List.map_congr_left fun i _ => encodeInstruction_mapImmediates same i

end

/-! ## Where an operand stands -/

/-- The number of bytes of an operand that has any. -/
def operandSize (o : Operand) : Nat :=
  match o.kind, o.value with
  | .register, _ => 1
  | .segment, _ => 2
  | .memory, .number _ => 4
  | _, _ => 3

def instructionSize (i : Instruction) : Nat := 1 + (i.operands.map operandSize).sum

/-- The bytes before the operand `j` of the instruction `k`, which is `i`: the header and the count,
the instructions before, the operation, the operands before. -/
def operandPlace (is : List Instruction) (k : Nat) (i : Instruction) (j : Nat) : Nat :=
  8 + ((is.take k).map instructionSize).sum + 1 + ((i.operands.take j).map operandSize).sum

theorem Written.length_eq {o : Operand} {part : List UInt8} (h : Written address? o part) :
    part.length = operandSize o := by
  cases h with
  | register kind _ | immediate kind _ | label kind _ _ _ | segment kind _ =>
      simp [operandSize, kind, wordBytes]
  | memoryAt kind value _ _ => simp [operandSize, kind, value, wordBytes]
  | memoryBy kind byte =>
      obtain ⟨s, _, value, _, _⟩ := registerByte?_eq_some_iff.mp byte
      simp [operandSize, kind, value]

/-- Entries of known sizes, one after the other: each is found behind the sizes of those before. -/
theorem exists_drop_flatten {α β : Type} {writes : α → List β → Prop} {size : α → Nat} {xs : List α}
    {parts : List (List β)} (h : List.Forall₂ writes xs parts)
    (sized : ∀ x part, writes x part → part.length = size x) :
    (parts.flatten.length = (xs.map size).sum) ∧
      ∀ {k x}, xs[k]? = some x → ∀ tail, ∃ part rest, writes x part ∧
        (parts.flatten ++ tail).drop ((xs.take k).map size).sum = part ++ rest := by
  induction h with
  | nil => exact ⟨rfl, nofun⟩
  | @cons x part xs parts hx _ ih =>
      have length := sized x part hx
      refine ⟨?_, fun {k y} hy tail => ?_⟩
      · rw [List.flatten_cons, List.length_append, length, ih.1]
        rfl
      · rw [List.flatten_cons, List.append_assoc]
        cases k with
        | zero =>
            obtain rfl := Option.some.inj hy
            exact ⟨part, parts.flatten ++ tail, hx, rfl⟩
        | succ k =>
            obtain ⟨part', rest, hy, found⟩ := ih.2 hy tail
            refine ⟨part', rest, hy, ?_⟩
            rw [List.take_succ_cons, List.map_cons, List.sum_cons, ← List.drop_drop,
              List.drop_left' length, found]

theorem length_encodeInstruction {i : Instruction} {part : List UInt8}
    (h : encodeInstruction address? i = .ok part) : part.length = instructionSize i := by
  obtain ⟨b, parts, _, written, rfl⟩ := encodeInstruction_eq_ok_iff.mp h
  have operands := (exists_drop_flatten written fun _ _ hw => hw.length_eq).1
  rw [List.length_cons, operands, instructionSize, Nat.add_comm]

/-- **An operand is read at its place.** -/
theorem readOperand_at_place (h : encode p = .ok bytes) {k j : Nat} {i : Instruction} {o : Operand}
    (hi : p.instructions[k]? = some i) (ho : i.operands[j]? = some o) :
    ∃ x rest, o.argument? p.labels.get? = some x ∧
      readOperand (bytes.drop (operandPlace p.instructions k i j)) = some (x, rest) := by
  obtain ⟨instructions, data, labels, _, _, _, code, _, _, rfl⟩ := encode_eq_ok_iff.mp h
  simp only [List.append_assoc]
  obtain ⟨part, behind, encoded, atInstruction⟩ :=
    (exists_drop_flatten code fun _ _ => length_encodeInstruction).2 hi
      (wordBytes p.data.length ++ (data ++ (wordBytes p.labels.size ++ labels.flatten)))
  obtain ⟨b, parts, _, written, rfl⟩ := encodeInstruction_eq_ok_iff.mp encoded
  obtain ⟨part, after, operand, atOperand⟩ :=
    (exists_drop_flatten written fun _ _ hw => hw.length_eq).2 ho behind
  obtain ⟨x, argument, reads⟩ := operand.exists_reads
  refine ⟨x, after, argument, ?_⟩
  -- the header and the count, the instructions before, the operation, the operands before
  unfold operandPlace
  rw [← List.drop_drop, ← List.drop_drop, ← List.drop_drop]
  show readOperand (List.drop _ (List.drop 1 (List.drop _ (instructions.flatten ++ _)))) = _
  rw [atInstruction, List.cons_append, List.drop_succ_cons, List.drop_zero, atOperand]
  exact reads after

/-- **Immediate numbers are reduced, and never refused.**  Whatever they are, the same faults are
found, and what differs by multiples of 2^16 has the same bytecode.  So where a program is encoded,
the word at the place of an immediate number is its remainder; it stands for the number just if
sixteen bits are enough for it, without a sign or with one. -/
theorem immediates_wrap (p : Program) :
    (∀ f fault, encode (p.mapImmediates f) = .error fault ↔ encode p = .error fault) ∧
    (∀ f, (∀ n, f n % 0x10000 = n % 0x10000) → encode (p.mapImmediates f) = encode p) ∧
    (∀ bytes, encode p = .ok bytes → ∀ k i j o n, p.instructions[k]? = some i →
      i.operands[j]? = some o → o.kind = .immediate → o.value = .number n →
      ∃ w rest, readOperand (bytes.drop (operandPlace p.instructions k i j)) =
          some (.immediate w, rest) ∧
        (w.toNat : Int) = n % 0x10000 ∧ (StandsFor w n ↔ -0x8000 ≤ n ∧ n ≤ 0xFFFF)) := by
  refine ⟨fun _ _ => encode_mapImmediates_eq_error_iff, fun f same => encode_mapImmediates same p,
    fun bytes h k i j o n hi ho kind value => ?_⟩
  obtain ⟨x, rest, argument, found⟩ := readOperand_at_place h hi ho
  obtain rfl : x = .immediate (UInt16.ofInt n) := by
    simp only [Operand.argument?, kind, value] at argument
    exact (Option.some.inj argument).symm
  exact ⟨UInt16.ofInt n, rest, found, uint16_toNat_ofInt n, standsFor_ofInt_iff⟩

end Bytecode

/-! ## A number that is lost -/

namespace Sample

/-- Loads a number into the first register. -/
def loading (n : Int) : Program where
  instructions :=
    [⟨.load, [⟨.register, .name "I", none, none⟩, ⟨.immediate, .number n, none, none⟩]⟩]

/-- The bytecode of `loading`, with the two bytes of the number. -/
def loadingBytes (low high : UInt8) : List UInt8 :=
  [0x52, 0x4D, 0x53, 0x4D, 1, 0, 1, 0, 0x01, 0x00, 0x80, low, high, 0, 0, 0, 0]

theorem encode_loading (n : Int) :
    Bytecode.encode (loading n) = .ok (loadingBytes (.ofNat ((n % 0x10000).toNat % 256))
      (.ofNat ((n % 0x10000).toNat / 256))) := by
  have labels : (loading n).labels.size = 0 := rfl
  refine Bytecode.encode_eq_ok_iff.mpr
    ⟨[0x01 :: 0x00 :: 0x80 :: Bytecode.wordBytes (n % 0x10000).toNat], [], [],
      Nat.le_of_ble_eq_true rfl, Nat.zero_le _, Nat.zero_le _, .cons rfl .nil, .nil, .nil, ?_⟩
  rw [labels]
  simp [loadingBytes, Bytecode.magic, Bytecode.version, Bytecode.wordBytes, loading]

end Sample

namespace Bytecode

open Sample

/-- The first number that is too low for sixteen bits is read as the highest with a sign. -/
theorem low_immediate_is_high :
    encode (loading (-0x8001)) = .ok (loadingBytes 0xFF 0x7F) ∧
      encode ((loading (-0x8001)).mapImmediates (· + 0x10000)) = .ok (loadingBytes 0xFF 0x7F) ∧
      ∃ w rest, readOperand ((loadingBytes 0xFF 0x7F).drop 10) = some (.immediate w, rest) ∧
        (w.toNat : Int) = 0x7FFF ∧ ¬StandsFor w (-0x8001) := by
  obtain ⟨-, same, reading⟩ := immediates_wrap (loading (-0x8001))
  have bytes : encode (loading (-0x8001)) = .ok (loadingBytes 0xFF 0x7F) := encode_loading _
  obtain ⟨w, rest, found, remainder, exact_iff⟩ := reading _ bytes 0 _ 1 _ _ rfl rfl rfl rfl
  refine ⟨bytes, (same (· + 0x10000) fun n => by simp).trans bytes, w, rest, found, remainder, ?_⟩
  rw [exact_iff]
  decide

/-- A number past the field is encoded, as zero is. -/
theorem wide_immediate_is_zero :
    ∃ bytes, encode (loading 0x10000) = .ok bytes ∧ encode (loading 0) = .ok bytes ∧
      ¬((0x10000 : Int) ≤ 0xFFFF) :=
  ⟨loadingBytes 0 0, encode_loading _, encode_loading _, by decide⟩

end Bytecode

end BootLink
