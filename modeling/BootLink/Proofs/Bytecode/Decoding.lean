/-
# `BootLink.Proofs.Bytecode.Decoding` — bytecode read back

Bytecode gives no lengths for instructions and operands, and a register is a bare byte that could
as well be an operation.  What it takes to read it is the number of operands of each operation:

    decode arity bytes   the operations with their arguments, the data bytes and the labels

`decode` is a reader of its own and knows nothing of programs.  `Program.disassembly?` is what a
program says to the machine, and knows nothing of bytes: names of registers and segments, numbers
modulo their width, addresses of labels.  `decode_encode` ties the two together through
`encode`, and says besides that nothing is left over; two programs of the same bytecode then say
the same (`encode_uniquely_decodable`).

A part of the format is read back in the midst of others, so the statement for a part, `Reads`, is
about its bytes with anything behind them.  That is the one property that the sections need of
their entries, and the entries of their operands.  An operand has it because its first byte tells
its kind: registers are below the flags, and memory by register differs from memory by address in
the byte that follows.
-/
import BootLink.Proofs.Bytecode.Encoding
import BootLink.Program

namespace BootLink

/-! ## What the machine reads -/

/-- An operand as the machine reads it. -/
inductive Argument
  | register (name : String)
  | immediate (n : UInt16)
  | label (address : Int)
  | segment (name : String)
  | memoryAt (address : Int)
  | memoryBy (register : String)
  deriving DecidableEq, Repr

/-- A program as the machine reads it. -/
structure Disassembly where
  instructions : List (Opcode × List Argument)
  data : List UInt8
  labels : List (String × Int)
  deriving DecidableEq, Repr

/-- What an operand says: numbers modulo `2^16`, segment registers in capital letters. -/
def Operand.argument? (address? : String → Option Int) (o : Operand) : Option Argument :=
  match o.kind, o.value with
  | .register, .name s => some (.register s)
  | .immediate, .number n => some (.immediate (UInt16.ofInt n))
  | .label, _ => (Bytecode.labelAddress address? o).toOption.map .label
  | .segment, v => some (.segment (Text.capitals v.text))
  | .memory, .number n => some (.memoryAt n)
  | .memory, .name s => some (.memoryBy s)
  | _, _ => none

def Instruction.reading? (address? : String → Option Int) (i : Instruction) :
    Option (Opcode × List Argument) :=
  (i.operands.mapM (Operand.argument? address?)).map (i.opcode, ·)

/-- The byte of a data cell: a number modulo `2^8`. -/
def Cell.byte? : Cell → Option UInt8
  | .number n => some (UInt8.ofInt n)
  | .bytes [b] => some b
  | .bytes _ => none

def Program.disassembly? (p : Program) : Option Disassembly := do
  let instructions ← p.instructions.mapM (Instruction.reading? p.labels.get?)
  let data ← p.data.mapM fun d => d.value.byte?
  return ⟨instructions, data, p.labels.entries⟩

/-! ## The reader -/

def Opcode.ofByte? (b : UInt8) : Option Opcode := all.find? (·.byte? = some b)

namespace Bytecode

/-- A number of two bytes, the low one first. -/
def readWord : List UInt8 → Option (Nat × List UInt8)
  | low :: high :: rest => some (low.toNat + 256 * high.toNat, rest)
  | _ => none

/-- Memory, behind its flag. -/
def readMemory : List UInt8 → Option (Argument × List UInt8)
  | b :: rest =>
    if b = absoluteMarker then (readWord rest).map fun (n, rest) => (.memoryAt n, rest)
    else do
      let rest ← [0x00].isPrefixOf? rest
      let name ← registers[b.toNat]?
      return (.memoryBy name, rest)
  | [] => none

/-- A segment register, behind its flag. -/
def readSegment : List UInt8 → Option (Argument × List UInt8)
  | b :: rest => segments[b.toNat]?.map fun name => (.segment name, rest)
  | [] => none

/-- One operand; what is no flag is a register. -/
def readOperand : List UInt8 → Option (Argument × List UInt8)
  | b :: rest =>
    if b = immediateFlag then (readWord rest).map fun (n, rest) => (.immediate (.ofNat n), rest)
    else if b = labelFlag then (readWord rest).map fun (n, rest) => (.label n, rest)
    else if b = segmentFlag then readSegment rest
    else if b = memoryFlag then readMemory rest
    else registers[b.toNat]?.map fun name => (.register name, rest)
  | [] => none

/-- So many entries, one after the other. -/
def readMany {α : Type} (read : List UInt8 → Option (α × List UInt8)) :
    Nat → List UInt8 → Option (List α × List UInt8)
  | 0, bytes => some ([], bytes)
  | count + 1, bytes => do
    let (x, bytes) ← read bytes
    let (xs, bytes) ← readMany read count bytes
    return (x :: xs, bytes)

/-- One instruction, with as many operands as its operation has. -/
def readInstruction (arity : Opcode → Nat) :
    List UInt8 → Option ((Opcode × List Argument) × List UInt8)
  | b :: rest => do
    let op ← Opcode.ofByte? b
    let (arguments, rest) ← readMany readOperand (arity op) rest
    return ((op, arguments), rest)
  | [] => none

def readByte : List UInt8 → Option (UInt8 × List UInt8)
  | b :: rest => some (b, rest)
  | [] => none

/-- One label: the length of its name, the name, its address. -/
def readLabel : List UInt8 → Option ((String × Int) × List UInt8)
  | length :: rest => do
    let name ← String.fromUTF8? ⟨(rest.take length.toNat).toArray⟩
    let (address, rest) ← readWord (rest.drop length.toNat)
    return ((name, address), rest)
  | [] => none

/-- A count of two bytes, and so many entries. -/
def readSection {α : Type} (read : List UInt8 → Option (α × List UInt8)) (bytes : List UInt8) :
    Option (List α × List UInt8) := do
  let (count, bytes) ← readWord bytes
  readMany read count bytes

/-- The whole of it: the header, the three sections, and nothing else. -/
def decode (arity : Opcode → Nat) (bytes : List UInt8) : Option Disassembly := do
  let bytes ← (magic ++ version).isPrefixOf? bytes
  let (instructions, bytes) ← readSection (readInstruction arity) bytes
  let (data, bytes) ← readSection readByte bytes
  let (labels, bytes) ← readSection readLabel bytes
  if bytes = [] then some ⟨instructions, data, labels⟩ else none

/-! ## Reading in the midst of other bytes -/

/-- The bytes are read as `x`, whatever comes behind them. -/
def Reads {α : Type} (read : List UInt8 → Option (α × List UInt8)) (bytes : List UInt8) (x : α) :
    Prop :=
  ∀ rest, read (bytes ++ rest) = some (x, rest)

theorem readWord_wordBytes {n : Nat} (fits : n ≤ 0xFFFF) : Reads readWord (wordBytes n) n := by
  intro rest
  have low : (UInt8.ofNat (n % 256)).toNat = n % 256 := by simp
  have high : (UInt8.ofNat (n / 256)).toNat = n / 256 :=
    UInt8.toNat_ofNat_of_lt' (show n / 256 < 256 by omega)
  show some ((UInt8.ofNat (n % 256)).toNat + 256 * (UInt8.ofNat (n / 256)).toNat, rest) = _
  rw [low, high, Nat.mod_add_div]

/-- **Entries that can each be read back can be read back one after the other.** -/
theorem exists_reads_many {α β : Type} {writes : α → List UInt8 → Prop} {denote : α → Option β}
    {read : List UInt8 → Option (β × List UInt8)} {xs : List α} {parts : List (List UInt8)}
    (h : List.Forall₂ writes xs parts)
    (each : ∀ x ∈ xs, ∀ part, writes x part → ∃ y, denote x = some y ∧ Reads read part y) :
    ∃ ys, xs.mapM denote = some ys ∧ Reads (readMany read xs.length) parts.flatten ys := by
  induction h with
  | nil => exact ⟨[], rfl, fun rest => rfl⟩
  | @cons x part xs parts hx _ ih =>
      obtain ⟨y, hy, ready⟩ := each x List.mem_cons_self part hx
      obtain ⟨ys, hys, readys⟩ := ih fun x' hx' => each x' (List.mem_cons_of_mem _ hx')
      refine ⟨y :: ys, ?_, ?_⟩
      · rw [List.mapM_cons, hy, hys]
        rfl
      · intro rest
        rw [List.flatten_cons, List.append_assoc, List.length_cons, readMany, ready]
        show (readMany read xs.length (parts.flatten ++ rest)).bind _ = _
        rw [readys]
        rfl

theorem Reads.behind_count {α : Type} {read : List UInt8 → Option (α × List UInt8)} {n : Nat}
    {bytes : List UInt8} {xs : List α} (h : Reads (readMany read n) bytes xs) (fits : n ≤ 0xFFFF)
    (rest : List UInt8) :
    readSection read (wordBytes n ++ (bytes ++ rest)) = some (xs, rest) := by
  rw [readSection, readWord_wordBytes fits]
  exact h rest

/-! ## Operands -/

theorem lt_of_idxOf? {names : List String} {s : String} {i : Nat}
    (h : names.idxOf? s = some i) : i < names.length ∧ names[i]? = some s := by
  obtain ⟨lt, e, _⟩ := List.idxOf?_eq_some_iff.mp h
  exact ⟨lt, List.getElem?_eq_some_iff.mpr ⟨lt, e⟩⟩

/-- A register's byte is below every flag, and gives the register's name back. -/
theorem registers_of_registerByte? {v : Value} {b : UInt8} (h : registerByte? v = some b) :
    ∃ s, v = .name s ∧ registers[b.toNat]? = some s ∧ b.toNat < 8 := by
  obtain ⟨s, i, rfl, hi, rfl⟩ := registerByte?_eq_some_iff.mp h
  obtain ⟨lt, name⟩ := lt_of_idxOf? hi
  have small : i < 8 := lt
  have number : (UInt8.ofNat i).toNat = i := UInt8.toNat_ofNat_of_lt' (show i < 256 by omega)
  rw [number]
  exact ⟨s, rfl, name, small⟩

theorem segments_of_segmentByte? {v : Value} {b : UInt8} (h : segmentByte? v = some b) :
    segments[b.toNat]? = some (Text.capitals v.text) := by
  obtain ⟨i, hi, rfl⟩ := Option.map_eq_some_iff.mp h
  obtain ⟨lt, name⟩ := lt_of_idxOf? hi
  have small : i < 6 := lt
  rw [UInt8.toNat_ofNat_of_lt' (show i < 256 by omega), name]

theorem ne_of_toNat_lt {b flag : UInt8} {bound : Nat} (small : b.toNat < bound)
    (large : bound ≤ flag.toNat) : b ≠ flag := by
  rintro rfl
  omega

/-- **An operand is read back as what it says.** -/
theorem Written.exists_reads {address? : String → Option Int} {o : Operand} {bytes : List UInt8}
    (h : Written address? o bytes) :
    ∃ x, o.argument? address? = some x ∧ Reads readOperand bytes x := by
  cases h with
  | @register b kind byte =>
      obtain ⟨s, value, name, small⟩ := registers_of_registerByte? byte
      refine ⟨.register s, by simp only [Operand.argument?, kind, value], fun rest => ?_⟩
      show readOperand (b :: rest) = _
      -- every flag is above the registers, so the byte is none of them
      rw [readOperand, if_neg (ne_of_toNat_lt small (by decide)),
        if_neg (ne_of_toNat_lt small (by decide)), if_neg (ne_of_toNat_lt small (by decide)),
        if_neg (ne_of_toNat_lt small (by decide)), name]
      rfl
  | @immediate n kind value =>
      refine ⟨.immediate (UInt16.ofInt n), by simp only [Operand.argument?, kind, value],
        fun rest => ?_⟩
      rw [List.cons_append, readOperand, if_pos rfl, readWord_wordBytes (by omega)]
      rfl
  | @label a kind address low high =>
      refine ⟨.label a, by simp only [Operand.argument?, kind, address]; rfl, fun rest => ?_⟩
      rw [List.cons_append, readOperand, if_neg (by decide), if_pos rfl,
        readWord_wordBytes (by omega)]
      show some (Argument.label a.toNat, rest) = _
      rw [Int.toNat_of_nonneg low]
  | @segment b kind byte =>
      have name := segments_of_segmentByte? byte
      refine ⟨.segment (Text.capitals o.value.text), by simp only [Operand.argument?, kind],
        fun rest => ?_⟩
      show segments[b.toNat]?.map _ = _
      rw [name]
      rfl
  | @memoryAt n kind value low high =>
      refine ⟨.memoryAt n, by simp only [Operand.argument?, kind, value], fun rest => ?_⟩
      show readMemory (absoluteMarker :: (wordBytes n.toNat ++ rest)) = _
      rw [readMemory, if_pos rfl, readWord_wordBytes (by omega)]
      show some (Argument.memoryAt n.toNat, rest) = _
      rw [Int.toNat_of_nonneg low]
  | @memoryBy b kind byte =>
      obtain ⟨s, value, name, small⟩ := registers_of_registerByte? byte
      refine ⟨.memoryBy s, by simp only [Operand.argument?, kind, value], fun rest => ?_⟩
      show readMemory (b :: 0x00 :: rest) = _
      -- nor is it the marker of an address, which would take the other form
      rw [readMemory, if_neg (ne_of_toNat_lt small (by decide)), name]
      rfl

/-! ## Instructions, data and labels -/

theorem ofByte?_of_byte? {op : Opcode} {b : UInt8} (h : op.byte? = some b) :
    Opcode.ofByte? b = some op := by
  cases op with
  | unknown name => exact nomatch h
  | _ => obtain rfl := Option.some.inj h; rfl

theorem exists_reads_instruction {address? : String → Option Int} {arity : Opcode → Nat}
    {i : Instruction} {bytes : List UInt8} (count : i.operands.length = arity i.opcode)
    (h : encodeInstruction address? i = .ok bytes) :
    ∃ x, i.reading? address? = some x ∧ Reads (readInstruction arity) bytes x := by
  obtain ⟨b, parts, byte, written, rfl⟩ := encodeInstruction_eq_ok_iff.mp h
  obtain ⟨arguments, denoted, reads⟩ :=
    exists_reads_many written fun o _ _ ho => Written.exists_reads ho
  refine ⟨(i.opcode, arguments), by rw [Instruction.reading?, denoted]; rfl, fun rest => ?_⟩
  show (Opcode.ofByte? b).bind _ = _
  rw [ofByte?_of_byte? byte]
  show (readMany readOperand (arity i.opcode) (parts.flatten ++ rest)).bind _ = _
  rw [← count, reads]
  rfl

theorem byte?_of_encodeItem {d : DataItem} {b : UInt8} (h : encodeItem d = .ok b) :
    d.value.byte? = some b := by
  obtain ⟨address, value⟩ := d
  cases value with
  | number n => exact congrArg some (Except.ok.inj h)
  | bytes content =>
      match content with
      | [_] => exact congrArg some (Except.ok.inj h)
      | [] | _ :: _ :: _ => exact nomatch h

theorem exists_reads_item {d : DataItem} {bytes : List UInt8}
    (h : ∃ b, encodeItem d = .ok b ∧ bytes = [b]) :
    ∃ b, d.value.byte? = some b ∧ Reads readByte bytes b := by
  obtain ⟨b, hb, rfl⟩ := h
  exact ⟨b, byte?_of_encodeItem hb, fun rest => rfl⟩

theorem reads_label {l : String × Int} {bytes : List UInt8}
    (h : encodeLabelEntry l = .ok bytes) : Reads readLabel bytes l := by
  obtain ⟨name, a⟩ := l
  obtain ⟨short, low, high, rfl⟩ := encodeLabelEntry_eq_ok_iff.mp h
  intro rest
  have length : (UInt8.ofNat name.toUTF8.data.toList.length).toNat =
      name.toUTF8.data.toList.length :=
    UInt8.toNat_ofNat_of_lt' (show name.toUTF8.data.toList.length < 256 by omega)
  have text : String.fromUTF8? ⟨name.toUTF8.data.toList.toArray⟩ = some name := by
    show String.fromUTF8? name.toByteArray = _
    rw [String.fromUTF8?, dif_pos name.isValidUTF8]
    rfl
  rw [List.cons_append, List.cons_append, List.append_assoc, readLabel, length, List.take_left,
    List.drop_left, text, readWord_wordBytes (by omega)]
  show some ((name, (a.toNat : Int)), rest) = _
  rw [Int.toNat_of_nonneg low]

/-! ## The whole program -/

theorem forall₂_singleton {ds : List DataItem} {bs : List UInt8}
    (h : List.Forall₂ (fun d b => encodeItem d = .ok b) ds bs) :
    List.Forall₂ (fun d bytes => ∃ b, encodeItem d = .ok b ∧ bytes = [b]) ds
      (bs.map fun b => [b]) :=
  List.forall₂_map_right_iff.mpr (h.imp fun _ b hb => ⟨b, hb, rfl⟩)

/-- **Bytecode is read back as what its program says, with nothing left over.** -/
theorem decode_encode {arity : Opcode → Nat} {p : Program} {bytes : List UInt8}
    (counts : ∀ i ∈ p.instructions, i.operands.length = arity i.opcode)
    (h : encode p = .ok bytes) :
    ∃ d, p.disassembly? = some d ∧ d.labels = p.labels.entries ∧ decode arity bytes = some d := by
  obtain ⟨instructions, data, labels, fewInstructions, fewData, fewLabels, hi, hd, hl, rfl⟩ :=
    encode_eq_ok_iff.mp h
  obtain ⟨is, his, readInstructions⟩ :=
    exists_reads_many hi fun i member part => exists_reads_instruction (counts i member)
  obtain ⟨cells, hcells, readCells⟩ :=
    exists_reads_many (forall₂_singleton hd) fun _ _ _ => exists_reads_item
  have readsLabel (l : String × Int) (_ : l ∈ p.labels.entries) (part : List UInt8)
      (written : encodeLabelEntry l = .ok part) :
      ∃ l', some l = some l' ∧ Reads readLabel part l' := ⟨l, rfl, reads_label written⟩
  obtain ⟨ls, hls, readLabels⟩ := exists_reads_many hl readsLabel
  obtain rfl : p.labels.entries = ls := by
    rw [← List.forall₂_eq_eq_eq]
    exact (mapM_eq_some_iff.mp hls).imp fun _ _ => Option.some.inj
  rw [← List.flatMap_def, List.flatMap_singleton'] at readCells
  refine ⟨⟨is, cells, p.labels.entries⟩, ?_, rfl, ?_⟩
  · rw [Program.disassembly?, his, hcells]
    rfl
  · have header (rest : List UInt8) :
        (magic ++ version).isPrefixOf? (magic ++ version ++ rest) = some rest :=
      List.isPrefixOf?_eq_some_iff_append_eq.mpr rfl
    -- the last section has nothing behind it, and `decode` asks for that
    have last : readSection readLabel (wordBytes p.labels.size ++ labels.flatten) =
        some (p.labels.entries, []) := by
      have behind := readLabels.behind_count fewLabels []
      rwa [List.append_nil] at behind
    simp only [List.append_assoc] at header ⊢
    rw [decode, header]
    show (readSection _ _).bind _ = _
    rw [readInstructions.behind_count fewInstructions]
    show (readSection _ _).bind _ = _
    rw [readCells.behind_count fewData]
    show (readSection _ _).bind _ = _
    rw [last]
    rfl

/-- **Bytecode is uniquely decodable.**  Whatever number of operands each operation has: of two
programs that keep to it and have the same bytecode, a reader that knows nothing else reads the
same from the bytes, to the last of them, and it is what both of the programs say.  So they have
the same operations with the same arguments, the same data bytes, and the same labels. -/
theorem encode_uniquely_decodable {arity : Opcode → Nat} {p q : Program} {bytes : List UInt8}
    (pCounts : ∀ i ∈ p.instructions, i.operands.length = arity i.opcode)
    (qCounts : ∀ i ∈ q.instructions, i.operands.length = arity i.opcode)
    (hp : encode p = .ok bytes) (hq : encode q = .ok bytes) :
    (∃ d, decode arity bytes = some d ∧ p.disassembly? = some d ∧ q.disassembly? = some d) ∧
      p.labels = q.labels := by
  obtain ⟨d, meaning, labels, decoded⟩ := decode_encode pCounts hp
  obtain ⟨d', meaning', labels', decoded'⟩ := decode_encode qCounts hq
  obtain rfl : d = d' := Option.some.inj (decoded.symm.trans decoded')
  exact ⟨⟨d, decoded, meaning, meaning'⟩, Table.ext_entries (labels.symm.trans labels')⟩

end Bytecode

/-! ## Two programs of one bytecode

They write the same numbers, the same segment register and the same address in different ways. -/

namespace Sample

/-- Names its target, and has signed numbers and small letters. -/
def named : Program where
  instructions :=
    [⟨.load, [⟨.register, .name "I", none, none⟩, ⟨.immediate, .number (-1), none, none⟩]⟩,
      ⟨.movSeg, [⟨.segment, .name "ds", none, none⟩, ⟨.memory, .name "II", none, none⟩]⟩,
      ⟨.jmp, [⟨.label, .absent, some "é", none⟩]⟩]
  data := [⟨0, .number 300⟩]
  labels := ⟨[("é", 3)], by decide⟩

/-- The same with numbers in place of names, and reduced. -/
def numbered : Program where
  instructions :=
    [⟨.load, [⟨.register, .name "I", none, none⟩, ⟨.immediate, .number 65535, none, none⟩]⟩,
      ⟨.movSeg, [⟨.segment, .name "DS", none, none⟩, ⟨.memory, .name "II", none, none⟩]⟩,
      ⟨.jmp, [⟨.label, .number 3, none, some .data⟩]⟩]
  data := [⟨0, .bytes [44]⟩]
  labels := ⟨[("é", 3)], by decide⟩

def namedBytes : List UInt8 :=
  [0x52, 0x4D, 0x53, 0x4D, 1, 0, 3, 0, 0x01, 0x00, 0x80, 0xFF, 0xFF, 0x16, 0xB0, 1, 0x90, 1, 0,
    0x0A, 0xA0, 3, 0, 1, 0, 44, 1, 0, 2, 0xC3, 0xA9, 3, 0]

/-- One operand for a jump, and two for the others. -/
def namedArity (op : Opcode) : Nat := if op = .jmp then 1 else 2

theorem encode_named : Bytecode.encode named = .ok namedBytes :=
  Bytecode.encode_eq_ok_iff.mpr
    ⟨[[0x01, 0x00, 0x80, 0xFF, 0xFF], [0x16, 0xB0, 1, 0x90, 1, 0], [0x0A, 0xA0, 3, 0]], [44],
      [[2, 0xC3, 0xA9, 3, 0]], by decide, by decide, by decide,
      .cons rfl (.cons rfl (.cons rfl .nil)), .cons rfl .nil, .cons rfl .nil, rfl⟩

theorem encode_numbered : Bytecode.encode numbered = .ok namedBytes :=
  Bytecode.encode_eq_ok_iff.mpr
    ⟨[[0x01, 0x00, 0x80, 0xFF, 0xFF], [0x16, 0xB0, 1, 0x90, 1, 0], [0x0A, 0xA0, 3, 0]], [44],
      [[2, 0xC3, 0xA9, 3, 0]], by decide, by decide, by decide,
      .cons rfl (.cons rfl (.cons rfl .nil)), .cons rfl .nil, .cons rfl .nil, rfl⟩

end Sample

open Sample in
/-- The bytes give back what the two programs have in common. -/
theorem Bytecode.named_read_as_numbered :
    Bytecode.encode named = .ok namedBytes ∧ Bytecode.encode numbered = .ok namedBytes ∧
      named ≠ numbered ∧
      Bytecode.decode namedArity namedBytes =
        some ⟨[(.load, [.register "I", .immediate 65535]),
          (.movSeg, [.segment "DS", .memoryBy "II"]), (.jmp, [.label 3])], [44], [("é", 3)]⟩ := by
  have counts : ∀ i ∈ named.instructions, i.operands.length = namedArity i.opcode := by decide
  have counts' : ∀ i ∈ numbered.instructions, i.operands.length = namedArity i.opcode := by decide
  obtain ⟨⟨d, decoded, meaning, _⟩, _⟩ :=
    Bytecode.encode_uniquely_decodable counts counts' encode_named encode_numbered
  refine ⟨encode_named, encode_numbered, by decide, ?_⟩
  rw [decoded, ← meaning]
  rfl

end BootLink
