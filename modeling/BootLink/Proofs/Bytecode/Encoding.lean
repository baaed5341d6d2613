/-
# `BootLink.Proofs.Bytecode.Encoding` — what bytecode is made of

Encoding stops at the first fault, so bytes come out only where every part was encoded.  Each
statement here takes one function of the encoder apart: it gives these bytes exactly if its parts
give theirs.  For an operand the parts depend on its kind, and `Written` lists the six shapes; for
a program, `encode_eq_ok_iff` puts the three sections together.

The index that goes with an instruction is for the fault alone and leaves no trace in the bytes.
-/
import BootLink.Bytecode
import BootLink.Table.Lemmas
import Mathlib.Data.List.Forall2

namespace BootLink

/-! ## Steps that may fail -/

theorem bind_eq_ok_iff {ε α β : Type} {x : Except ε α} {f : α → Except ε β} {b : β} :
    x >>= f = .ok b ↔ ∃ a, x = .ok a ∧ f a = .ok b := by
  cases x with
  | error e => exact ⟨nofun, fun ⟨_, h, _⟩ => nomatch h⟩
  | ok a => exact ⟨fun h => ⟨a, rfl, h⟩, fun ⟨_, e, h⟩ => Except.ok.inj e ▸ h⟩

theorem bind_eq_error_iff {ε α β : Type} {x : Except ε α} {f : α → Except ε β} {e : ε} :
    x >>= f = .error e ↔ x = .error e ∨ ∃ a, x = .ok a ∧ f a = .error e := by
  cases x with
  | error e' =>
      constructor
      · exact fun h => .inl (congrArg Except.error (Except.error.inj h))
      · rintro (h | ⟨_, h, _⟩)
        · exact congrArg Except.error (Except.error.inj h)
        · exact nomatch h
  | ok a =>
      constructor
      · exact fun h => .inr ⟨a, rfl, h⟩
      · rintro (h | ⟨_, e', h⟩)
        · exact nomatch h
        · exact Except.ok.inj e' ▸ h

/-- What is done with a result cannot fail. -/
theorem map_eq_error_iff {ε α β : Type} {x : Except ε α} {g : α → β} {e : ε} :
    g <$> x = .error e ↔ x = .error e := by
  cases x with
  | error e' =>
      exact ⟨fun h => congrArg _ (Except.error.inj h), fun h => congrArg _ (Except.error.inj h)⟩
  | ok a => exact ⟨nofun, nofun⟩

theorem mapM_eq_ok_iff {ε α β : Type} {f : α → Except ε β} {xs : List α} :
    ∀ {ys : List β}, xs.mapM f = .ok ys ↔ List.Forall₂ (fun x y => f x = .ok y) xs ys := by
  induction xs with
  | nil =>
      intro ys
      rw [List.mapM_nil, List.forall₂_nil_left_iff]
      exact ⟨fun h => (Except.ok.inj h).symm, fun h => h ▸ rfl⟩
  | cons x xs ih =>
      intro ys
      rw [List.mapM_cons, bind_eq_ok_iff, List.forall₂_cons_left_iff]
      simp only [bind_eq_ok_iff, ih]
      constructor
      · rintro ⟨y, hy, ys', hys, e⟩
        exact ⟨y, ys', hy, hys, (Except.ok.inj e).symm⟩
      · rintro ⟨y, ys', hy, hys, rfl⟩
        exact ⟨y, hy, ys', hys, rfl⟩

theorem mapM_eq_some_iff {α β : Type} {f : α → Option β} {xs : List α} :
    ∀ {ys : List β}, xs.mapM f = some ys ↔ List.Forall₂ (fun x y => f x = some y) xs ys := by
  induction xs with
  | nil =>
      intro ys
      rw [List.mapM_nil, List.forall₂_nil_left_iff]
      exact ⟨fun h => (Option.some.inj h).symm, fun h => h ▸ rfl⟩
  | cons x xs ih =>
      intro ys
      rw [List.mapM_cons, List.forall₂_cons_left_iff]
      simp only [Option.bind_eq_bind, Option.bind_eq_some_iff, ih]
      constructor
      · rintro ⟨y, hy, ys', hys, e⟩
        exact ⟨y, ys', hy, hys, (Option.some.inj e).symm⟩
      · rintro ⟨y, ys', hy, hys, rfl⟩
        exact ⟨y, hy, ys', hys, rfl⟩

namespace Bytecode

variable {address? : String → Option Int} {bytes : List UInt8}

/-! ## Fields -/

theorem word_eq_ok_iff {field : Field} {n : Int} :
    word field n = .ok bytes ↔ 0 ≤ n ∧ n ≤ 0xFFFF ∧ bytes = wordBytes n.toNat := by
  unfold word
  split
  · next fits => simp [fits, eq_comm]
  · next wide => exact ⟨nofun, fun ⟨low, high, _⟩ => absurd ⟨low, high⟩ wide⟩

/-- A count cannot be negative. -/
theorem word_count_eq_ok_iff {field : Field} {n : Nat} :
    word field n = .ok bytes ↔ n ≤ 0xFFFF ∧ bytes = wordBytes n := by
  rw [word_eq_ok_iff, Int.toNat_natCast]
  constructor
  · rintro ⟨_, fits, e⟩
    exact ⟨by omega, e⟩
  · rintro ⟨fits, e⟩
    exact ⟨by omega, by omega, e⟩

theorem registerByte?_eq_some_iff {v : Value} {b : UInt8} :
    registerByte? v = some b ↔
      ∃ s i, v = .name s ∧ registers.idxOf? s = some i ∧ b = UInt8.ofNat i := by
  cases v with
  | name s => simp [registerByte?, eq_comm]
  | absent | number n => exact ⟨nofun, fun ⟨_, _, h, _⟩ => nomatch h⟩

theorem encodeRegister_eq_ok_iff {v : Value} {b : UInt8} :
    encodeRegister v = .ok b ↔ registerByte? v = some b := by
  unfold encodeRegister
  cases registerByte? v <;> simp

/-! ## Operands -/

/-- The operand is written as these bytes. -/
inductive Written (address? : String → Option Int) : Operand → List UInt8 → Prop
  | register {o : Operand} {b : UInt8} :
      o.kind = .register → registerByte? o.value = some b → Written address? o [b]
  | immediate {o : Operand} {n : Int} :
      o.kind = .immediate → o.value = .number n →
      Written address? o (immediateFlag :: wordBytes (n % 0x10000).toNat)
  | label {o : Operand} {a : Int} :
      o.kind = .label → labelAddress address? o = .ok a → 0 ≤ a → a ≤ 0xFFFF →
      Written address? o (labelFlag :: wordBytes a.toNat)
  | segment {o : Operand} {b : UInt8} :
      o.kind = .segment → segmentByte? o.value = some b → Written address? o [segmentFlag, b]
  | memoryAt {o : Operand} {n : Int} :
      o.kind = .memory → o.value = .number n → 0 ≤ n → n ≤ 0xFFFF →
      Written address? o (memoryFlag :: absoluteMarker :: wordBytes n.toNat)
  | memoryBy {o : Operand} {b : UInt8} :
      o.kind = .memory → registerByte? o.value = some b →
      Written address? o [memoryFlag, b, 0x00]

theorem encodeSegment_eq_ok_iff {v : Value} :
    encodeSegment v = .ok bytes ↔ ∃ b, segmentByte? v = some b ∧ bytes = [segmentFlag, b] := by
  unfold encodeSegment
  cases segmentByte? v <;> simp [eq_comm]

theorem encodeImmediate_eq_ok_iff {v : Value} :
    encodeImmediate v = .ok bytes ↔
      ∃ n, v = .number n ∧ bytes = immediateFlag :: wordBytes (n % 0x10000).toNat := by
  cases v with
  | number n => simp [encodeImmediate, eq_comm]
  | absent | name s => exact ⟨nofun, fun ⟨_, h, _⟩ => nomatch h⟩

theorem encodeLabel_eq_ok_iff {o : Operand} :
    encodeLabel address? o = .ok bytes ↔
      ∃ a, labelAddress address? o = .ok a ∧ 0 ≤ a ∧ a ≤ 0xFFFF ∧
        bytes = labelFlag :: wordBytes a.toNat := by
  simp only [encodeLabel, bind_eq_ok_iff, word_eq_ok_iff]
  constructor
  · rintro ⟨a, ha, _, ⟨low, high, rfl⟩, e⟩
    exact ⟨a, ha, low, high, (Except.ok.inj e).symm⟩
  · rintro ⟨a, ha, low, high, rfl⟩
    exact ⟨a, ha, _, ⟨low, high, rfl⟩, rfl⟩

theorem encodeMemory_eq_ok_iff {v : Value} :
    encodeMemory v = .ok bytes ↔
      (∃ n, v = .number n ∧ 0 ≤ n ∧ n ≤ 0xFFFF ∧
        bytes = memoryFlag :: absoluteMarker :: wordBytes n.toNat) ∨
      ∃ b, registerByte? v = some b ∧ bytes = [memoryFlag, b, 0x00] := by
  have byRegister (v : Value) (h : ∀ n, v ≠ .number n) :
      encodeMemory v = (encodeRegister v >>= fun b => pure [memoryFlag, b, 0x00]) := by
    cases v with
    | number n => exact absurd rfl (h n)
    | absent | name s => rfl
  by_cases h : ∃ n, v = .number n
  · obtain ⟨n, rfl⟩ := h
    have none : registerByte? (.number n) = none := rfl
    simp only [encodeMemory, bind_eq_ok_iff, word_eq_ok_iff, none]
    constructor
    · rintro ⟨_, ⟨low, high, rfl⟩, e⟩
      exact Or.inl ⟨n, rfl, low, high, (Except.ok.inj e).symm⟩
    · rintro (⟨m, e, low, high, rfl⟩ | ⟨_, e, _⟩)
      · obtain rfl := Value.number.inj e
        exact ⟨_, ⟨low, high, rfl⟩, rfl⟩
      · exact nomatch e
  · rw [byRegister v fun n e => h ⟨n, e⟩]
    simp only [bind_eq_ok_iff, encodeRegister_eq_ok_iff]
    constructor
    · rintro ⟨b, hb, e⟩
      exact Or.inr ⟨b, hb, (Except.ok.inj e).symm⟩
    · rintro (⟨n, e, _⟩ | ⟨b, hb, rfl⟩)
      · exact absurd ⟨n, e⟩ h
      · exact ⟨b, hb, rfl⟩

theorem encodeOperand_eq_ok_iff {o : Operand} :
    encodeOperand address? o = .ok bytes ↔ Written address? o bytes := by
  unfold encodeOperand
  cases kind : o.kind with
  | register =>
      simp only [bind_eq_ok_iff, encodeRegister_eq_ok_iff]
      constructor
      · rintro ⟨b, hb, e⟩
        obtain rfl := Except.ok.inj e
        exact .register kind hb
      · -- the other five shapes are of other kinds, here and below
        intro h
        cases h with
        | register _ hb => exact ⟨_, hb, rfl⟩
        | immediate k | label k | segment k | memoryAt k | memoryBy k => simp [kind] at k
  | immediate =>
      rw [encodeImmediate_eq_ok_iff]
      constructor
      · rintro ⟨n, hn, rfl⟩
        exact .immediate kind hn
      · intro h
        cases h with
        | immediate _ hn => exact ⟨_, hn, rfl⟩
        | register k | label k | segment k | memoryAt k | memoryBy k => simp [kind] at k
  | label =>
      rw [encodeLabel_eq_ok_iff]
      constructor
      · rintro ⟨a, ha, low, high, rfl⟩
        exact .label kind ha low high
      · intro h
        cases h with
        | label _ ha low high => exact ⟨_, ha, low, high, rfl⟩
        | register k | immediate k | segment k | memoryAt k | memoryBy k => simp [kind] at k
  | segment =>
      rw [encodeSegment_eq_ok_iff]
      constructor
      · rintro ⟨b, hb, rfl⟩
        exact .segment kind hb
      · intro h
        cases h with
        | segment _ hb => exact ⟨_, hb, rfl⟩
        | register k | immediate k | label k | memoryAt k | memoryBy k => simp [kind] at k
  | memory =>
      rw [encodeMemory_eq_ok_iff]
      constructor
      · rintro (⟨n, hn, low, high, rfl⟩ | ⟨b, hb, rfl⟩)
        · exact .memoryAt kind hn low high
        · exact .memoryBy kind hb
      · intro h
        cases h with
        | memoryAt _ hn low high => exact Or.inl ⟨_, hn, low, high, rfl⟩
        | memoryBy _ hb => exact Or.inr ⟨_, hb, rfl⟩
        | register k | immediate k | label k | segment k => simp [kind] at k
  | foreign name =>
      refine ⟨nofun, fun h => ?_⟩
      cases h with
      | register k | immediate k | label k | segment k | memoryAt k | memoryBy k =>
          simp [kind] at k

/-! ## Instructions, data and labels -/

theorem encodeInstruction_eq_ok_iff {i : Instruction} :
    encodeInstruction address? i = .ok bytes ↔
      ∃ b parts, i.opcode.byte? = some b ∧
        List.Forall₂ (Written address?) i.operands parts ∧ bytes = b :: parts.flatten := by
  unfold encodeInstruction
  cases i.opcode.byte? with
  | none => simp
  | some b =>
      simp only [bind_eq_ok_iff, mapM_eq_ok_iff, encodeOperand_eq_ok_iff]
      constructor
      · rintro ⟨parts, h, e⟩
        exact ⟨b, parts, rfl, h, (Except.ok.inj e).symm⟩
      · rintro ⟨b', parts, e, h, rfl⟩
        obtain rfl := Option.some.inj e
        exact ⟨parts, h, rfl⟩

theorem encodeInstructionAt_eq_ok_iff {i : Instruction} {index : Nat} :
    encodeInstructionAt address? i index = .ok bytes ↔
      encodeInstruction address? i = .ok bytes := by
  unfold encodeInstructionAt
  cases encodeInstruction address? i with
  | ok _ => rfl
  | error _ => exact ⟨nofun, nofun⟩

theorem mapM_encodeInstructionAt_eq_ok_iff {is : List Instruction} {parts : List (List UInt8)} :
    is.zipIdx.mapM (fun x => encodeInstructionAt address? x.1 x.2) = .ok parts ↔
      List.Forall₂ (fun i part => encodeInstruction address? i = .ok part) is parts := by
  simp only [mapM_eq_ok_iff, encodeInstructionAt_eq_ok_iff]
  have firsts : is.zipIdx.map Prod.fst = is := List.zipIdx_map_fst 0 is
  conv_rhs => rw [← firsts]
  rw [List.forall₂_map_left_iff]

theorem encodeLabelEntry_eq_ok_iff {name : String} {a : Int} :
    encodeLabelEntry (name, a) = .ok bytes ↔
      name.toUTF8.data.toList.length ≤ 0xFF ∧ 0 ≤ a ∧ a ≤ 0xFFFF ∧
        bytes = UInt8.ofNat name.toUTF8.data.toList.length :: name.toUTF8.data.toList ++
          wordBytes a.toNat := by
  show (if name.toUTF8.data.toList.length > 0xFF then Except.error (.longLabelName name)
    else word (.addressOf name) a >>= fun w => pure (_ ++ w)) = _ ↔ _
  by_cases long : name.toUTF8.data.toList.length > 0xFF
  · rw [if_pos long]
    exact ⟨nofun, fun ⟨short, _⟩ => absurd long (Nat.not_lt.mpr short)⟩
  · rw [if_neg long]
    simp only [bind_eq_ok_iff, word_eq_ok_iff]
    constructor
    · rintro ⟨_, ⟨low, high, rfl⟩, e⟩
      exact ⟨Nat.not_lt.mp long, low, high, (Except.ok.inj e).symm⟩
    · rintro ⟨_, low, high, rfl⟩
      exact ⟨_, ⟨low, high, rfl⟩, rfl⟩

/-! ## The whole program -/

/-- **Bytecode is the header and three sections**, each behind its count. -/
theorem encode_eq_ok_iff {p : Program} :
    encode p = .ok bytes ↔
      ∃ instructions data labels,
        p.instructions.length ≤ 0xFFFF ∧ p.data.length ≤ 0xFFFF ∧ p.labels.size ≤ 0xFFFF ∧
        List.Forall₂ (fun i part => encodeInstruction p.labels.get? i = .ok part)
          p.instructions instructions ∧
        List.Forall₂ (fun d b => encodeItem d = .ok b) p.data data ∧
        List.Forall₂ (fun l part => encodeLabelEntry l = .ok part) p.labels.entries labels ∧
        bytes = magic ++ version ++ wordBytes p.instructions.length ++ instructions.flatten ++
          wordBytes p.data.length ++ data ++ wordBytes p.labels.size ++ labels.flatten := by
  unfold encode
  simp only [Table.getElem?_index, bind_eq_ok_iff, word_count_eq_ok_iff]
  simp only [mapM_encodeInstructionAt_eq_ok_iff]
  simp only [mapM_eq_ok_iff]
  constructor
  · rintro ⟨_, ⟨fewInstructions, rfl⟩, instructions, hi, _, ⟨fewData, rfl⟩, data, hd, _,
      ⟨fewLabels, rfl⟩, labels, hl, e⟩
    exact ⟨instructions, data, labels, fewInstructions, fewData, fewLabels, hi, hd, hl,
      (Except.ok.inj e).symm⟩
  · rintro ⟨instructions, data, labels, fewInstructions, fewData, fewLabels, hi, hd, hl, rfl⟩
    exact ⟨_, ⟨fewInstructions, rfl⟩, instructions, hi, _, ⟨fewData, rfl⟩, data, hd, _,
      ⟨fewLabels, rfl⟩, labels, hl, rfl⟩

/-! ## What the bytes depend on -/

/-- The faults of instructions are numbered, and nothing else tells two of them apart. -/
theorem mapM_encodeInstructionAt (address? : String → Option Int) (is : List Instruction) :
    is.zipIdx.mapM (fun x => encodeInstructionAt address? x.1 x.2) =
      (is.map (encodeInstruction address?)).zipIdx.mapM
        fun x => x.1.mapError (.atInstruction x.2) := by
  rw [List.zipIdx_map, List.mapM_map]
  rfl

/-- Bytecode depends on the instructions through what each of them is encoded to. -/
theorem encode_congr {q q' : Program} (labels : q'.labels = q.labels) (data : q'.data = q.data)
    (each : q'.instructions.map (encodeInstruction q.labels.get?) =
      q.instructions.map (encodeInstruction q.labels.get?)) : encode q' = encode q := by
  have count : q'.instructions.length = q.instructions.length := by
    simpa using congrArg List.length each
  unfold encode
  simp only [Table.getElem?_index, mapM_encodeInstructionAt, labels, data, count]
  rw [show (fun name => q.labels.get? name) = q.labels.get? from rfl, each]

end Bytecode

end BootLink
