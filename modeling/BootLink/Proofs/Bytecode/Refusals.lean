/-
# `BootLink.Proofs.Bytecode.Refusals` — the encoder refuses what has no bytecode

`BootLink.Proofs.Bytecode.Encoding` says of each function of the encoder when it gives bytes and
which; here stands, for the same functions in the same order, when they fail and with what.  The two
come together in

    exists_encode_iff       the programs that are encoded are the encodable ones
    encode_eq_error_iff     the others fail with their refusal

A row of steps fails at the first that does (`mapM_eq_error_iff`), and a section of the format is a
count and such a row.  What comes behind a section matters only where the section is written, so the
three sections are taken one by one (`section_eq_error_iff`).
-/
import BootLink.Proofs.Bytecode.Encoding
import BootLink.Proofs.Bytecode.Requirements

namespace BootLink

/-! ## Steps in a row -/

section
variable {ε α β : Type} {f : α → Except ε β} {fine : α → Prop} {fails : α → ε → Prop} {e : ε}

theorem not_firstFault_nil {k : Nat} : ¬FirstFault fine fails [] k e := by
  rintro ⟨_, x, h, _⟩
  exact nomatch h

theorem firstFault_cons_iff {x : α} {xs : List α} {k : Nat} :
    FirstFault fine fails (x :: xs) k e ↔
      k = 0 ∧ fails x e ∨ ∃ j, k = j + 1 ∧ fine x ∧ FirstFault fine fails xs j e := by
  cases k with
  | zero =>
      constructor
      · rintro ⟨_, y, hy, h⟩
        obtain rfl := Option.some.inj hy
        exact .inl ⟨rfl, h⟩
      · rintro (⟨_, h⟩ | ⟨_, h, _⟩)
        · exact ⟨nofun, x, rfl, h⟩
        · exact nomatch h
  | succ j =>
      constructor
      · rintro ⟨before, here⟩
        exact .inr ⟨j, rfl, before x List.mem_cons_self,
          fun y hy => before y (List.mem_cons_of_mem x hy), here⟩
      · rintro (⟨h, _⟩ | ⟨i, h, hx, before, here⟩)
        · exact nomatch h
        · obtain rfl := Nat.succ.inj h
          refine ⟨fun y hy => ?_, here⟩
          rcases List.mem_cons.mp hy with rfl | hy
          · exact hx
          · exact before y hy

/-- **Steps in a row end at the first that fails.** -/
theorem mapM_eq_error_iff (hfine : ∀ x, (∃ y, f x = .ok y) ↔ fine x)
    (hfails : ∀ x e, f x = .error e ↔ fails x e) {xs : List α} :
    xs.mapM f = .error e ↔ ∃ k, FirstFault fine fails xs k e := by
  induction xs with
  | nil => exact ⟨nofun, fun ⟨_, h⟩ => absurd h not_firstFault_nil⟩
  | cons x xs ih =>
      rw [List.mapM_cons, bind_eq_error_iff]
      simp only [bind_eq_error_iff, ih, hfails, firstFault_cons_iff]
      constructor
      · rintro (h | ⟨y, hy, ⟨k, h⟩ | ⟨_, _, h⟩⟩)
        · exact ⟨0, .inl ⟨rfl, h⟩⟩
        · exact ⟨k + 1, .inr ⟨k, rfl, (hfine x).mp ⟨y, hy⟩, h⟩⟩
        · exact nomatch h
      · rintro ⟨k, ⟨_, h⟩ | ⟨j, _, hx, h⟩⟩
        · exact .inl h
        · obtain ⟨y, hy⟩ := (hfine x).mpr hx
          exact .inr ⟨y, hy, .inl ⟨j, h⟩⟩

/-- Steps in a row come to an end where none of them fails. -/
theorem exists_mapM_iff (hfine : ∀ x, (∃ y, f x = .ok y) ↔ fine x) {xs : List α} :
    (∃ ys, xs.mapM f = .ok ys) ↔ ∀ x ∈ xs, fine x := by
  induction xs with
  | nil => exact ⟨fun _ => nofun, fun _ => ⟨[], rfl⟩⟩
  | cons x xs ih =>
      rw [List.forall_mem_cons, ← ih, ← hfine]
      simp only [mapM_eq_ok_iff, List.forall₂_cons_left_iff]
      constructor
      · rintro ⟨_, y, ys, hy, hys, rfl⟩
        exact ⟨⟨y, hy⟩, ys, hys⟩
      · rintro ⟨⟨y, hy⟩, ys, hys⟩
        exact ⟨y :: ys, y, ys, hy, hys, rfl⟩

end

namespace Bytecode

variable {address? : String → Option Int} {fault : GenerationFault}

/-! ## Fields and names -/

theorem word_eq_error_iff {field : Field} {n : Int} :
    word field n = .error fault ↔ ¬FitsWord n ∧ fault = .tooWide field n := by
  unfold word FitsWord
  split
  · next fits => exact ⟨nofun, fun h => absurd fits h.1⟩
  · next wide => simp [wide, eq_comm]

theorem word_count_eq_error_iff {field : Field} {n : Nat} :
    word field n = .error fault ↔ 0xFFFF < n ∧ fault = .tooWide field n := by
  rw [word_eq_error_iff, FitsWord]
  exact and_congr_left fun _ => by omega

theorem registerByte?_eq_none_iff {v : Value} : registerByte? v = none ↔ ¬v.IsRegister := by
  cases v with
  | name s => simp [registerByte?, Value.IsRegister]
  | absent | number n => simp [registerByte?, Value.IsRegister]

theorem exists_registerByte?_iff {v : Value} : (∃ b, registerByte? v = some b) ↔ v.IsRegister := by
  rw [← Option.isSome_iff_exists, Option.isSome_iff_ne_none, ne_eq, registerByte?_eq_none_iff,
    not_not]

theorem encodeRegister_eq_error_iff {v : Value} :
    encodeRegister v = .error fault ↔ ¬v.IsRegister ∧ fault = .unknownRegister v := by
  rw [← registerByte?_eq_none_iff]
  unfold encodeRegister
  cases registerByte? v <;> simp [eq_comm]

theorem segmentByte?_eq_none_iff {v : Value} :
    segmentByte? v = none ↔ Text.capitals v.text ∉ segments := by
  simp [segmentByte?]

theorem exists_segmentByte?_iff {v : Value} :
    (∃ b, segmentByte? v = some b) ↔ Text.capitals v.text ∈ segments := by
  rw [← Option.isSome_iff_exists, Option.isSome_iff_ne_none, ne_eq, segmentByte?_eq_none_iff,
    not_not]

/-! ## Label operands -/

theorem labelAddress_eq_ok_iff {o : Operand} {a : Int} :
    labelAddress address? o = .ok a ↔ o.PointsAt address? a := by
  obtain ⟨kind, value, labelName, tag⟩ := o
  constructor
  · intro h
    cases labelName with
    | some n =>
        cases found : address? n with
        | none => simp [labelAddress, found] at h
        | some a' =>
            obtain rfl : a' = a := by simpa [labelAddress, found] using h
            exact .byName rfl found
    | none =>
        cases value with
        | absent => exact nomatch h
        | number a' => exact .byNumber rfl (congrArg Value.number (Except.ok.inj h))
        | name n =>
            cases found : address? n with
            | none => simp [labelAddress, found] at h
            | some a' =>
                obtain rfl : a' = a := by simpa [labelAddress, found] using h
                exact .byValue rfl rfl found
  · intro h
    cases h with
    | byName named found => obtain rfl := named; simp [labelAddress, found]
    | byNumber named value => obtain rfl := named; obtain rfl := value; rfl
    | byValue named value found =>
        obtain rfl := named
        obtain rfl := value
        simp [labelAddress, found]

theorem labelAddress_eq_error_iff {o : Operand} :
    labelAddress address? o = .error fault ↔
      (∃ n, o.labelName = some n ∧ address? n = none ∧ fault = .unknownLabel n) ∨
        o.labelName = none ∧ (∀ a, ¬o.PointsAt address? a) ∧ fault = .unknownTarget o.value := by
  simp only [← labelAddress_eq_ok_iff]
  obtain ⟨kind, value, labelName, tag⟩ := o
  cases labelName with
  | some n => cases found : address? n <;> simp [labelAddress, found, eq_comm]
  | none =>
      cases value with
      | absent => simp [labelAddress, eq_comm]
      | number a => simp [labelAddress]
      | name n => cases found : address? n <;> simp [labelAddress, found, eq_comm]

/-! ## Operands -/

theorem exists_encodeOperand_iff {o : Operand} :
    (∃ bytes, encodeOperand address? o = .ok bytes) ↔ o.Encodable address? := by
  simp only [encodeOperand_eq_ok_iff]
  constructor
  · rintro ⟨bytes, h⟩
    cases h with
    | register kind byte => exact .register kind (exists_registerByte?_iff.mp ⟨_, byte⟩)
    | immediate kind value => exact .immediate kind value
    | label kind address low high =>
        exact .label kind (labelAddress_eq_ok_iff.mp address) ⟨low, high⟩
    | segment kind byte => exact .segment kind (exists_segmentByte?_iff.mp ⟨_, byte⟩)
    | memoryAt kind value low high => exact .memoryAt kind value ⟨low, high⟩
    | memoryBy kind byte => exact .memoryBy kind (exists_registerByte?_iff.mp ⟨_, byte⟩)
  · intro h
    cases h with
    | register kind value =>
        obtain ⟨b, byte⟩ := exists_registerByte?_iff.mpr value
        exact ⟨_, .register kind byte⟩
    | immediate kind value => exact ⟨_, .immediate kind value⟩
    | label kind address fits =>
        exact ⟨_, .label kind (labelAddress_eq_ok_iff.mpr address) fits.1 fits.2⟩
    | segment kind value =>
        obtain ⟨b, byte⟩ := exists_segmentByte?_iff.mpr value
        exact ⟨_, .segment kind byte⟩
    | memoryAt kind value fits => exact ⟨_, .memoryAt kind value fits.1 fits.2⟩
    | memoryBy kind value =>
        obtain ⟨b, byte⟩ := exists_registerByte?_iff.mpr value
        exact ⟨_, .memoryBy kind byte⟩

theorem encodeImmediate_eq_error_iff {v : Value} :
    encodeImmediate v = .error fault ↔ (∀ n, v ≠ .number n) ∧ fault = .immediateNotNumber v := by
  cases v <;> simp [encodeImmediate, eq_comm]

theorem encodeLabel_eq_error_iff {o : Operand} :
    encodeLabel address? o = .error fault ↔
      labelAddress address? o = .error fault ∨
        ∃ a, o.PointsAt address? a ∧ ¬FitsWord a ∧ fault = .tooWide .labelAddress a := by
  simp only [encodeLabel, bind_eq_error_iff, word_eq_error_iff, labelAddress_eq_ok_iff]
  refine or_congr_right (exists_congr fun a => and_congr_right fun _ => ?_)
  constructor
  · rintro (wide | ⟨_, _, h⟩)
    · exact wide
    · cases h
  · exact .inl

theorem encodeSegment_eq_error_iff {v : Value} :
    encodeSegment v = .error fault ↔
      Text.capitals v.text ∉ segments ∧ fault = .unknownSegment v := by
  rw [← segmentByte?_eq_none_iff]
  unfold encodeSegment
  cases segmentByte? v <;> simp [eq_comm]

theorem encodeMemory_eq_error_iff {v : Value} :
    encodeMemory v = .error fault ↔
      (∃ n, v = .number n ∧ ¬FitsWord n ∧ fault = .tooWide .memoryAddress n) ∨
        (∀ n, v ≠ .number n) ∧ ¬v.IsRegister ∧ fault = .unknownRegister v := by
  -- an address is a number, and a register is none
  cases v with
  | number n => simp [encodeMemory, map_eq_error_iff, word_eq_error_iff]
  | absent | name s => simp [encodeMemory, map_eq_error_iff, encodeRegister_eq_error_iff]

theorem encodeOperand_eq_error_iff {o : Operand} :
    encodeOperand address? o = .error fault ↔ o.Refused address? fault := by
  constructor
  · intro h
    unfold encodeOperand at h
    split at h
    · next kind =>
      obtain ⟨none, rfl⟩ := encodeRegister_eq_error_iff.mp (map_eq_error_iff.mp h)
      exact .register kind none
    · next kind =>
      obtain ⟨none, rfl⟩ := encodeImmediate_eq_error_iff.mp h
      exact .immediate kind none
    · next kind =>
      rcases encodeLabel_eq_error_iff.mp h with h | ⟨a, address, wide, rfl⟩
      · rcases labelAddress_eq_error_iff.mp h with ⟨n, named, unknown, rfl⟩ | ⟨named, none, rfl⟩
        · exact .label kind named unknown
        · exact .target kind named none
      · exact .labelAddress kind address wide
    · next kind =>
      obtain ⟨none, rfl⟩ := encodeSegment_eq_error_iff.mp h
      exact .segment kind none
    · next kind =>
      rcases encodeMemory_eq_error_iff.mp h with ⟨n, value, wide, rfl⟩ | ⟨address, none, rfl⟩
      · exact .memoryAt kind value wide
      · exact .memoryBy kind address none
    · next name kind =>
      obtain rfl := Except.error.inj h
      exact .foreign kind
  · intro h
    unfold encodeOperand
    cases h with
    | register kind none =>
        rw [kind]
        exact map_eq_error_iff.mpr (encodeRegister_eq_error_iff.mpr ⟨none, rfl⟩)
    | immediate kind none =>
        rw [kind]
        exact encodeImmediate_eq_error_iff.mpr ⟨none, rfl⟩
    | label kind named unknown =>
        rw [kind]
        exact encodeLabel_eq_error_iff.mpr
          (.inl (labelAddress_eq_error_iff.mpr (.inl ⟨_, named, unknown, rfl⟩)))
    | target kind named none =>
        rw [kind]
        exact encodeLabel_eq_error_iff.mpr
          (.inl (labelAddress_eq_error_iff.mpr (.inr ⟨named, none, rfl⟩)))
    | labelAddress kind address wide =>
        rw [kind]
        exact encodeLabel_eq_error_iff.mpr (.inr ⟨_, address, wide, rfl⟩)
    | segment kind none =>
        rw [kind]
        exact encodeSegment_eq_error_iff.mpr ⟨none, rfl⟩
    | memoryAt kind value wide =>
        rw [kind]
        exact encodeMemory_eq_error_iff.mpr (.inl ⟨_, value, wide, rfl⟩)
    | memoryBy kind address none =>
        rw [kind]
        exact encodeMemory_eq_error_iff.mpr (.inr ⟨address, none, rfl⟩)
    | foreign kind => rw [kind]

/-! ## Instructions, data and labels -/

theorem byte?_eq_none_iff {op : Opcode} : op.byte? = none ↔ ∃ name, op = .unknown name := by
  cases op with
  | unknown name => exact ⟨fun _ => ⟨name, rfl⟩, fun _ => rfl⟩
  | _ => exact ⟨nofun, fun ⟨_, h⟩ => nomatch h⟩

theorem exists_byte?_iff {op : Opcode} : (∃ b, op.byte? = some b) ↔ op ∈ Opcode.all := by
  cases op with
  | unknown name =>
      constructor
      · rintro ⟨_, h⟩
        exact nomatch h
      · intro h
        simp [Opcode.all] at h
  | _ => exact ⟨fun _ => by decide, fun _ => ⟨_, rfl⟩⟩

theorem exists_encodeInstruction_iff {i : Instruction} :
    (∃ bytes, encodeInstruction address? i = .ok bytes) ↔ i.Encodable address? := by
  rw [Instruction.Encodable, ← exists_byte?_iff,
    ← exists_mapM_iff fun _ => exists_encodeOperand_iff]
  simp only [encodeInstruction_eq_ok_iff, mapM_eq_ok_iff, encodeOperand_eq_ok_iff]
  constructor
  · rintro ⟨_, b, parts, byte, written, _⟩
    exact ⟨⟨b, byte⟩, parts, written⟩
  · rintro ⟨⟨b, byte⟩, parts, written⟩
    exact ⟨_, b, parts, byte, written, rfl⟩

theorem encodeInstruction_eq_error_iff {i : Instruction} :
    encodeInstruction address? i = .error fault ↔ i.Refused address? fault := by
  have operands : i.operands.mapM (encodeOperand address?) = .error fault ↔
      ∃ j, FirstFault (Operand.Encodable address?) (Operand.Refused address?) i.operands j fault :=
    mapM_eq_error_iff (fun _ => exists_encodeOperand_iff) fun _ _ => encodeOperand_eq_error_iff
  unfold encodeInstruction
  cases byte : i.opcode.byte? with
  | none =>
      obtain ⟨name, unknown⟩ := byte?_eq_none_iff.mp byte
      constructor
      · intro h
        obtain rfl := Except.error.inj h
        rw [unknown]
        exact .opcode unknown
      · intro h
        cases h with
        | opcode unknown => rw [unknown]; rfl
        | operand known _ =>
            obtain ⟨b, known⟩ := exists_byte?_iff.mpr known
            exact nomatch byte.symm.trans known
  | some b =>
      simp only [bind_eq_error_iff, operands]
      constructor
      · rintro (⟨j, h⟩ | ⟨_, _, h⟩)
        · exact .operand (exists_byte?_iff.mp ⟨b, byte⟩) h
        · exact nomatch h
      · intro h
        cases h with
        | opcode unknown =>
            exact nomatch byte.symm.trans (byte?_eq_none_iff.mpr ⟨_, unknown⟩)
        | operand _ h => exact .inl ⟨_, h⟩

/-- The index that a fault tells is the instruction's. -/
theorem mapM_encodeInstructionAt_eq_error_iff {is : List Instruction} :
    is.zipIdx.mapM (fun x => encodeInstructionAt address? x.1 x.2) = .error fault ↔
      ∃ k inner,
        FirstFault (Instruction.Encodable address?) (Instruction.Refused address?) is k inner ∧
        fault = .atInstruction k inner := by
  have fine (x : Instruction × Nat) :
      (∃ bytes, encodeInstructionAt address? x.1 x.2 = .ok bytes) ↔ x.1.Encodable address? := by
    simp only [encodeInstructionAt_eq_ok_iff, exists_encodeInstruction_iff]
  have fails (x : Instruction × Nat) (fault : GenerationFault) :
      encodeInstructionAt address? x.1 x.2 = .error fault ↔
        ∃ inner, x.1.Refused address? inner ∧ fault = .atInstruction x.2 inner := by
    simp only [← encodeInstruction_eq_error_iff]
    unfold encodeInstructionAt
    cases encodeInstruction address? x.1 <;> simp [Except.mapError, eq_comm]
  have firsts (k : Nat) : (is.zipIdx.take k).map Prod.fst = is.take k := by
    rw [List.map_take, List.zipIdx_map_fst]
  rw [mapM_eq_error_iff fine fails]
  constructor
  · rintro ⟨k, before, x, hx, inner, refused, rfl⟩
    rw [List.getElem?_zipIdx] at hx
    obtain ⟨i, hi, rfl⟩ := Option.map_eq_some_iff.mp hx
    rw [Nat.zero_add]
    refine ⟨k, inner, ⟨fun i' hi' => ?_, i, hi, refused⟩, rfl⟩
    rw [← firsts] at hi'
    obtain ⟨x, hx, rfl⟩ := List.mem_map.mp hi'
    exact before x hx
  · rintro ⟨k, inner, ⟨before, i, hi, refused⟩, rfl⟩
    refine ⟨k, fun x hx => before x.1 ?_, (i, k), ?_, inner, refused, rfl⟩
    · rw [← firsts]
      exact List.mem_map_of_mem hx
    · rw [List.getElem?_zipIdx, hi, Nat.zero_add]
      rfl

theorem exists_encodeItem_iff {d : DataItem} : (∃ b, encodeItem d = .ok b) ↔ d.Encodable := by
  obtain ⟨address, value⟩ := d
  match value with
  | .number n => exact ⟨fun _ => .inl ⟨n, rfl⟩, fun _ => ⟨_, rfl⟩⟩
  | .bytes [b] => exact ⟨fun _ => .inr ⟨b, rfl⟩, fun _ => ⟨b, rfl⟩⟩
  | .bytes [] | .bytes (_ :: _ :: _) =>
      constructor
      · rintro ⟨_, h⟩
        exact nomatch h
      · rintro (⟨_, h⟩ | ⟨_, h⟩)
        · exact nomatch h
        · exact nomatch h

theorem encodeItem_eq_error_iff {d : DataItem} : encodeItem d = .error fault ↔ d.Refused fault := by
  obtain ⟨address, value⟩ := d
  constructor
  · intro h
    match value, h with
    | .bytes [], h | .bytes (_ :: _ :: _), h =>
        obtain rfl := Except.error.inj h
        exact .wide rfl (by simp)
  · rintro ⟨value, length⟩
    obtain rfl := value
    unfold encodeItem
    split
    · next h => exact nomatch h
    · next h =>
      obtain rfl := Cell.bytes.inj h
      exact absurd rfl length
    · next h =>
      obtain rfl := Cell.bytes.inj h
      rfl

/-- The bytes of a text are counted by its size. -/
theorem length_bytes (s : String) : s.toUTF8.data.toList.length = s.utf8ByteSize := rfl

theorem exists_encodeLabelEntry_iff {l : String × Int} :
    (∃ bytes, encodeLabelEntry l = .ok bytes) ↔ LabelFits l := by
  obtain ⟨name, a⟩ := l
  simp only [encodeLabelEntry_eq_ok_iff, length_bytes, LabelFits, FitsWord]
  exact ⟨fun ⟨_, short, low, high, _⟩ => ⟨short, low, high⟩,
    fun ⟨short, low, high⟩ => ⟨_, short, low, high, rfl⟩⟩

theorem encodeLabelEntry_eq_error_iff {l : String × Int} :
    encodeLabelEntry l = .error fault ↔ LabelRefused l fault := by
  obtain ⟨name, a⟩ := l
  show (if name.utf8ByteSize > 0xFF then Except.error (.longLabelName name)
    else word (.addressOf name) a >>= fun w => pure (_ ++ w)) = _ ↔ _
  split
  · next long =>
    constructor
    · intro h
      obtain rfl := Except.error.inj h
      exact .name long
    · intro h
      cases h with
      | name _ => rfl
      | address short _ => exact absurd long (Nat.not_lt.mpr short)
  · next short =>
    have short := Nat.not_lt.mp short
    simp only [bind_eq_error_iff, word_eq_error_iff]
    constructor
    · rintro (⟨wide, rfl⟩ | ⟨_, _, h⟩)
      · exact .address short wide
      · exact nomatch h
    · intro h
      cases h with
      | name long => exact absurd long (Nat.not_lt.mpr short)
      | address _ wide => exact .inl ⟨wide, rfl⟩

/-! ## Sections, and the whole program -/

/-- A section fails where it is refused; what comes behind it can fail only where it fits. -/
theorem section_eq_error_iff {α β γ : Type} (tell : Nat → GenerationFault → GenerationFault)
    {field : Field} {fine : α → Prop} {fails : α → GenerationFault → Prop} {xs : List α}
    {step : Except GenerationFault β} {next : List UInt8 → β → Except GenerationFault γ}
    {rest : Prop}
    (ends : (∃ parts, step = .ok parts) ↔ ∀ x ∈ xs, fine x)
    (faults : step = .error fault ↔
      ∃ k inner, FirstFault fine fails xs k inner ∧ fault = tell k inner)
    (behind : ∀ count parts, next count parts = .error fault ↔ rest) :
    (word field xs.length >>= fun count => step >>= next count) = .error fault ↔
      SectionRefused field fine fails tell xs fault ∨ SectionFits fine xs ∧ rest := by
  simp only [bind_eq_error_iff, word_count_eq_error_iff, word_count_eq_ok_iff, faults, behind]
  constructor
  · rintro (⟨many, rfl⟩ | ⟨_, ⟨few, -⟩, ⟨k, inner, h, rfl⟩ | ⟨parts, done, h⟩⟩)
    · exact .inl (.count many)
    · exact .inl (.entry few h)
    · exact .inr ⟨⟨few, ends.mp ⟨parts, done⟩⟩, h⟩
  · rintro (h | ⟨fits, h⟩)
    · cases h with
      | count many => exact .inl ⟨many, rfl⟩
      | entry few h => exact .inr ⟨_, ⟨few, rfl⟩, .inl ⟨_, _, h, rfl⟩⟩
    · obtain ⟨parts, done⟩ := ends.mpr fits.each
      exact .inr ⟨_, ⟨fits.count, rfl⟩, .inr ⟨parts, done, h⟩⟩

theorem exists_encodeInstructions_iff (address? : String → Option Int) (is : List Instruction) :
    (∃ parts, is.zipIdx.mapM (fun x => encodeInstructionAt address? x.1 x.2) = .ok parts) ↔
      ∀ i ∈ is, i.Encodable address? := by
  simp only [mapM_encodeInstructionAt_eq_ok_iff]
  rw [← exists_mapM_iff fun i => exists_encodeInstruction_iff]
  simp only [mapM_eq_ok_iff]

theorem exists_encodeItems_iff (ds : List DataItem) :
    (∃ bytes, ds.mapM encodeItem = .ok bytes) ↔ ∀ d ∈ ds, d.Encodable :=
  exists_mapM_iff fun _ => exists_encodeItem_iff

theorem exists_encodeLabels_iff (ls : List (String × Int)) :
    (∃ parts, ls.mapM encodeLabelEntry = .ok parts) ↔ ∀ l ∈ ls, LabelFits l :=
  exists_mapM_iff fun _ => exists_encodeLabelEntry_iff

/-- **The programs that have bytecode are those that are encoded.** -/
theorem exists_encode_iff {p : Program} : (∃ bytes, encode p = .ok bytes) ↔ p.Encodable := by
  have code := exists_encodeInstructions_iff p.labels.get? p.instructions
  have data := exists_encodeItems_iff p.data
  have labels := exists_encodeLabels_iff p.labels.entries
  simp only [mapM_encodeInstructionAt_eq_ok_iff] at code
  simp only [mapM_eq_ok_iff] at data labels
  simp only [encode_eq_ok_iff]
  constructor
  · rintro ⟨_, is, ds, ls, fewInstructions, fewData, fewLabels, hi, hd, hl, _⟩
    exact ⟨⟨fewInstructions, code.mp ⟨is, hi⟩⟩, ⟨fewData, data.mp ⟨ds, hd⟩⟩,
      ⟨fewLabels, labels.mp ⟨ls, hl⟩⟩⟩
  · intro h
    obtain ⟨is, hi⟩ := code.mpr h.code.each
    obtain ⟨ds, hd⟩ := data.mpr h.data.each
    obtain ⟨ls, hl⟩ := labels.mpr h.labels.each
    exact ⟨_, is, ds, ls, h.code.count, h.data.count, h.labels.count, hi, hd, hl, rfl⟩

/-- **Encoding fails with the first refusal.** -/
theorem encode_eq_error_iff {p : Program} : encode p = .error fault ↔ p.Refused fault := by
  have data : p.data.mapM encodeItem = .error fault ↔
      ∃ k inner, FirstFault DataItem.Encodable DataItem.Refused p.data k inner ∧ fault = inner := by
    rw [mapM_eq_error_iff (fun _ => exists_encodeItem_iff) fun _ _ => encodeItem_eq_error_iff]
    simp
  have labels : p.labels.entries.mapM encodeLabelEntry = .error fault ↔
      ∃ k inner, FirstFault LabelFits LabelRefused p.labels.entries k inner ∧ fault = inner := by
    rw [mapM_eq_error_iff (fun _ => exists_encodeLabelEntry_iff)
      fun _ _ => encodeLabelEntry_eq_error_iff]
    simp
  unfold encode
  simp only [Table.getElem?_index]
  -- section by section, from the first; behind the last nothing fails
  refine (section_eq_error_iff .atInstruction (exists_encodeInstructions_iff _ _)
    mapM_encodeInstructionAt_eq_error_iff fun _ _ =>
      section_eq_error_iff (fun _ fault => fault) (exists_encodeItems_iff _) data fun _ _ =>
        section_eq_error_iff (fun _ fault => fault) (exists_encodeLabels_iff _) labels fun _ _ =>
          iff_false_intro ?_).trans ?_
  · exact nofun
  constructor
  · rintro (h | ⟨code, h | ⟨data, h | ⟨_, h⟩⟩⟩)
    · exact .code h
    · exact .data code h
    · exact .labels code data h
    · exact h.elim
  · intro h
    cases h with
    | code h => exact .inl h
    | data code h => exact .inr ⟨code, .inl h⟩
    | labels code data h => exact .inr ⟨code, .inr ⟨data, .inl h⟩⟩

end Bytecode

end BootLink
