/-
# `BootLink.Proofs.Bytecode.Requirements` — what a program must be like to have bytecode

    p.Encodable         the requirements, part by part
    p.Refused fault     the first part that does not meet them, and what is said of it

Neither of them mentions the encoder; that it divides all programs in this way is proved in
`BootLink.Proofs.Bytecode.Refusals`.  A program is a row of three sections, the instructions, the
cells and the labels, each of them a number of entries and the entries; the parts are taken in this
order, and no part is looked at behind one that is refused.

What is said of a part may hold a number, and then the number may be too long to be written.
`Program.Refused.isWritable`: it never is if the numbers of the program are not.
-/
import BootLink.Bytecode
import BootLink.Table.Lemmas

namespace BootLink

/-! ## Rows of entries -/

/-- The entry at an index is at fault, and all entries before it are fine. -/
structure FirstFault {α ε : Type} (fine : α → Prop) (fails : α → ε → Prop) (xs : List α) (k : Nat)
    (e : ε) : Prop where
  before : ∀ x ∈ xs.take k, fine x
  here : ∃ x, xs[k]? = some x ∧ fails x e

theorem FirstFault.exists_mem {α ε : Type} {fine : α → Prop} {fails : α → ε → Prop} {xs : List α}
    {k : Nat} {e : ε} (h : FirstFault fine fails xs k e) : ∃ x ∈ xs, fails x e := by
  obtain ⟨x, hx, fault⟩ := h.here
  exact ⟨x, List.mem_of_getElem? hx, fault⟩

/-! ## What can be encoded -/

/-- A number that has a field of two bytes. -/
def FitsWord (n : Int) : Prop := 0 ≤ n ∧ n ≤ 0xFFFF

instance (n : Int) : Decidable (FitsWord n) := inferInstanceAs (Decidable (_ ∧ _))

/-- The address that a label operand stands for.  Its name is looked up; without one the value is
the address, or a name to be looked up. -/
inductive Operand.PointsAt (address? : String → Option Int) (o : Operand) (a : Int) : Prop
  | byName {n : String} : o.labelName = some n → address? n = some a → PointsAt address? o a
  | byNumber : o.labelName = none → o.value = .number a → PointsAt address? o a
  | byValue {n : String} :
      o.labelName = none → o.value = .name n → address? n = some a → PointsAt address? o a

/-- The value is the name of a register. -/
def Value.IsRegister (v : Value) : Prop := ∃ s ∈ Bytecode.registers, v = .name s

/-- The operands that have bytes, by kind. -/
inductive Operand.Encodable (address? : String → Option Int) (o : Operand) : Prop
  | register : o.kind = .register → o.value.IsRegister → Encodable address? o
  | immediate {n : Int} : o.kind = .immediate → o.value = .number n → Encodable address? o
  | label {a : Int} :
      o.kind = .label → o.PointsAt address? a → FitsWord a → Encodable address? o
  | segment :
      o.kind = .segment → Text.capitals o.value.text ∈ Bytecode.segments → Encodable address? o
  | memoryAt {n : Int} :
      o.kind = .memory → o.value = .number n → FitsWord n → Encodable address? o
  | memoryBy : o.kind = .memory → o.value.IsRegister → Encodable address? o

def Instruction.Encodable (address? : String → Option Int) (i : Instruction) : Prop :=
  i.opcode ∈ Opcode.all ∧ ∀ o ∈ i.operands, o.Encodable address?

/-- The cell is a number, which is reduced, or one byte. -/
def DataItem.Encodable (d : DataItem) : Prop :=
  (∃ n, d.value = .number n) ∨ ∃ b, d.value = .bytes [b]

/-- The label's name and address have room in the table. -/
def LabelFits (l : String × Int) : Prop := l.1.utf8ByteSize ≤ 0xFF ∧ FitsWord l.2

/-- A section of the format: its entries can be counted in two bytes, and each can be encoded. -/
structure SectionFits {α : Type} (fine : α → Prop) (xs : List α) : Prop where
  count : xs.length ≤ 0xFFFF
  each : ∀ x ∈ xs, fine x

/-- **The programs that have bytecode.** -/
structure Program.Encodable (p : Program) : Prop where
  code : SectionFits (Instruction.Encodable p.labels.get?) p.instructions
  data : SectionFits DataItem.Encodable p.data
  labels : SectionFits LabelFits p.labels.entries

/-! ## What is refused -/

inductive Operand.Refused (address? : String → Option Int) (o : Operand) : GenerationFault → Prop
  | register :
      o.kind = .register → ¬o.value.IsRegister → Refused address? o (.unknownRegister o.value)
  | immediate :
      o.kind = .immediate → (∀ n, o.value ≠ .number n) →
      Refused address? o (.immediateNotNumber o.value)
  | label {n : String} :
      o.kind = .label → o.labelName = some n → address? n = none →
      Refused address? o (.unknownLabel n)
  | target :
      o.kind = .label → o.labelName = none → (∀ a, ¬o.PointsAt address? a) →
      Refused address? o (.unknownTarget o.value)
  | labelAddress {a : Int} :
      o.kind = .label → o.PointsAt address? a → ¬FitsWord a →
      Refused address? o (.tooWide .labelAddress a)
  | segment :
      o.kind = .segment → Text.capitals o.value.text ∉ Bytecode.segments →
      Refused address? o (.unknownSegment o.value)
  | memoryAt {n : Int} :
      o.kind = .memory → o.value = .number n → ¬FitsWord n →
      Refused address? o (.tooWide .memoryAddress n)
  | memoryBy :
      o.kind = .memory → (∀ n, o.value ≠ .number n) → ¬o.value.IsRegister →
      Refused address? o (.unknownRegister o.value)
  | foreign {kind : String} :
      o.kind = .foreign kind → Refused address? o (.unsupportedOperand kind)

/-- An unknown operation is refused before its operands are. -/
inductive Instruction.Refused (address? : String → Option Int) (i : Instruction) :
    GenerationFault → Prop
  | opcode {name : String} :
      i.opcode = .unknown name → Refused address? i (.unknownOpcode name)
  | operand {j : Nat} {fault : GenerationFault} :
      i.opcode ∈ Opcode.all →
      FirstFault (Operand.Encodable address?) (Operand.Refused address?) i.operands j fault →
      Refused address? i fault

inductive DataItem.Refused (d : DataItem) : GenerationFault → Prop
  | wide {content : List UInt8} :
      d.value = .bytes content → content.length ≠ 1 →
      Refused d (.wideCell d.address content.length)

/-- A name that is too long is refused before its address is. -/
inductive LabelRefused (l : String × Int) : GenerationFault → Prop
  | name : 0xFF < l.1.utf8ByteSize → LabelRefused l (.longLabelName l.1)
  | address :
      l.1.utf8ByteSize ≤ 0xFF → ¬FitsWord l.2 → LabelRefused l (.tooWide (.addressOf l.1) l.2)

/-- Why a section cannot be written: there are too many entries, or one of them is refused.  What is
told of an entry may depend on its index. -/
inductive SectionRefused {α : Type} (field : Field) (fine : α → Prop)
    (fails : α → GenerationFault → Prop) (tell : Nat → GenerationFault → GenerationFault)
    (xs : List α) : GenerationFault → Prop
  | count : 0xFFFF < xs.length → SectionRefused field fine fails tell xs (.tooWide field xs.length)
  | entry {k : Nat} {fault : GenerationFault} :
      xs.length ≤ 0xFFFF → FirstFault fine fails xs k fault →
      SectionRefused field fine fails tell xs (tell k fault)

/-- **Why a program has no bytecode**: the first part, in the order of the format, that cannot be
written.  Of an instruction the index is told as well. -/
inductive Program.Refused (p : Program) : GenerationFault → Prop
  | code {fault : GenerationFault} :
      SectionRefused .instructionCount (Instruction.Encodable p.labels.get?)
        (Instruction.Refused p.labels.get?) .atInstruction p.instructions fault →
      Refused p fault
  | data {fault : GenerationFault} :
      SectionFits (Instruction.Encodable p.labels.get?) p.instructions →
      SectionRefused .dataCount DataItem.Encodable DataItem.Refused (fun _ fault => fault)
        p.data fault →
      Refused p fault
  | labels {fault : GenerationFault} :
      SectionFits (Instruction.Encodable p.labels.get?) p.instructions →
      SectionFits DataItem.Encodable p.data →
      SectionRefused .labelCount LabelFits LabelRefused (fun _ fault => fault)
        p.labels.entries fault →
      Refused p fault

/-! ## Numbers that a message may hold -/

/-- Every number of the program may be written. -/
structure Program.IsWritable (p : Program) : Prop where
  instructionCount : Text.isWritable p.instructions.length = true
  operands : ∀ i ∈ p.instructions, ∀ o ∈ i.operands, o.value.isWritable = true
  dataCount : Text.isWritable p.data.length = true
  data : ∀ d ∈ p.data, Text.isWritable d.address = true
  labelCount : Text.isWritable p.labels.size = true
  labels : ∀ l ∈ p.labels.entries, Text.isWritable l.2 = true

section
variable {address? : String → Option Int} {fault : GenerationFault}

theorem Operand.PointsAt.isWritable {o : Operand} {a : Int} (h : o.PointsAt address? a)
    (value : o.value.isWritable = true)
    (labels : ∀ n a, address? n = some a → Text.isWritable a = true) :
    Text.isWritable a = true := by
  cases h with
  | byName _ found => exact labels _ a found
  | byNumber _ number =>
      rw [number, Value.isWritable] at value
      exact value
  | byValue _ _ found => exact labels _ a found

theorem Operand.Refused.isWritable {o : Operand} (h : o.Refused address? fault)
    (value : o.value.isWritable = true)
    (labels : ∀ n a, address? n = some a → Text.isWritable a = true) : fault.isWritable = true := by
  cases h with
  | register | immediate | target | segment | memoryBy => exact value
  | label | foreign => rfl
  | labelAddress _ address _ => exact address.isWritable value labels
  | memoryAt _ number _ =>
      rw [number, Value.isWritable] at value
      exact value

theorem Instruction.Refused.isWritable {i : Instruction} (h : i.Refused address? fault)
    (values : ∀ o ∈ i.operands, o.value.isWritable = true)
    (labels : ∀ n a, address? n = some a → Text.isWritable a = true) : fault.isWritable = true := by
  cases h with
  | opcode => rfl
  | operand _ first =>
      obtain ⟨o, member, refused⟩ := first.exists_mem
      exact refused.isWritable (values o member) labels

end

/-- **What is said of a program can be said** where its numbers can. -/
theorem Program.Refused.isWritable {p : Program} {fault : GenerationFault} (h : p.Refused fault)
    (numbers : p.IsWritable) : fault.isWritable = true := by
  cases h with
  | code h =>
      cases h with
      | count => exact numbers.instructionCount
      | entry _ first =>
          obtain ⟨i, member, refused⟩ := first.exists_mem
          refine refused.isWritable (numbers.operands i member) fun n a found => ?_
          exact numbers.labels (n, a) (Table.get?_eq_some_iff.mp found)
  | data _ h =>
      cases h with
      | count => exact numbers.dataCount
      | entry _ first =>
          obtain ⟨d, member, refused⟩ := first.exists_mem
          cases refused with
          | wide => exact numbers.data d member
  | labels _ _ h =>
      cases h with
      | count => exact numbers.labelCount
      | entry _ first =>
          obtain ⟨l, member, refused⟩ := first.exists_mem
          cases refused with
          | name => rfl
          | address => exact numbers.labels l member

/-- What has room in a field of two bytes is short enough. -/
theorem FitsWord.isWritable {n : Int} (h : FitsWord n) : Text.isWritable n = true := by
  obtain ⟨low, high⟩ := h
  have power (digits : Nat) (h : 5 ≤ digits) : 10 ^ 5 ≤ Nat.pow 10 digits :=
    Nat.pow_le_pow_right (by decide) h
  have bound : 10 ^ 5 ≤ Text.numeralBound := by
    unfold Text.numeralBound
    exact power Text.digitLimit (by decide)
  have small : n.natAbs < 10 ^ 5 := by omega
  simpa [Text.isWritable] using Nat.lt_of_lt_of_le small bound

end BootLink
