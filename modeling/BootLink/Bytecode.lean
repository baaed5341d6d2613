/-
# `BootLink.Bytecode` — a linked program as bytes for the virtual machine

The format is little-endian:

    "RMSM", version (two bytes), instruction count (two bytes),
    instructions: the operation's byte, then the operands
    data count (two bytes), one byte for each cell
    label count (two bytes), labels: length of the name (one byte), name in UTF-8, address

and an operand is one of

    reg                     a register, 0 to 7
    0x80 lo hi              an immediate number, modulo 2^16
    0xA0 lo hi              a label's address
    0xB0 seg                a segment register, 0 to 5
    0x90 reg 0x00           memory at a register
    0x90 0xFF lo hi         memory at an address

Counts and addresses must fit their two bytes; only immediate numbers are reduced. The first fault
in the order of the format is the one reported.
-/
import BootLink.Program
import BootLink.Text.Capital

namespace BootLink

/-- The numbers that must fit in sixteen bits. -/
inductive Field
  | instructionCount
  | dataCount
  | labelCount
  | labelAddress
  | memoryAddress
  | addressOf (label : String)
  deriving DecidableEq, Repr

/-- The field in words. -/
def Field.text : Field → String
  | .instructionCount => "instruction count"
  | .dataCount => "data count"
  | .labelCount => "label count"
  | .labelAddress => "label address"
  | .memoryAddress => "memory address"
  | .addressOf label => "label '" ++ label ++ "' address"

/-- Why a backend cannot lower a program. -/
inductive GenerationFault
  | unknownOpcode (name : String)
  | unknownRegister (value : Value)
  | immediateNotNumber (value : Value)
  | unknownLabel (name : String)
  | unknownTarget (value : Value)
  | unknownSegment (value : Value)
  | unsupportedOperand (kind : String)
  | tooWide (field : Field) (value : Int)
  | wideCell (address : Int) (length : Nat)
  | longLabelName (name : String)
  | atInstruction (index : Nat) (fault : GenerationFault)
  | templateRequired
  /-- A component failed with an error of its own, told by its message. -/
  | componentFailed (what message : String)
  /-- A fault that some other component reports, in its own words. -/
  | reported (message : String)
  deriving DecidableEq, Repr

/-- The fault in words. -/
def GenerationFault.message : GenerationFault → String
  | .unknownOpcode name => "unknown opcode: " ++ name
  | .unknownRegister value => "unknown register: " ++ value.text
  | .immediateNotNumber value => "immediate operand is not a number: " ++ value.shown
  | .unknownLabel name => "unknown label: " ++ name
  | .unknownTarget value => "unknown label: " ++ value.shown
  | .unknownSegment value => "unknown segment register: " ++ value.text
  | .unsupportedOperand kind => "unsupported operand type: " ++ kind
  | .tooWide field value => field.text ++ " " ++ toString value ++ " does not fit in 16 bits"
  | .wideCell address length =>
    "data item at offset " ++ toString address ++ " is " ++ toString length ++ " bytes; " ++
      "the VM data segment holds one byte per item"
  | .longLabelName name => "label name '" ++ name ++ "' is longer than 255 bytes"
  | .atInstruction index fault => "instruction " ++ toString index ++ ": " ++ fault.message
  | .templateRequired => "VM mode requires a bootloader template"
  | .componentFailed what message => what ++ " failed: " ++ message
  | .reported message => message

/-- Whether the fault can be put into words, that is whether every number in them may be written. -/
def GenerationFault.isWritable : GenerationFault → Bool
  | .unknownRegister value | .immediateNotNumber value | .unknownTarget value
  | .unknownSegment value => value.isWritable
  | .tooWide _ value => Text.isWritable value
  | .wideCell address _ => Text.isWritable address
  | .atInstruction _ fault => fault.isWritable
  | _ => true

namespace Bytecode

/-! ## The parts of the format -/

/-- The first four bytes: `RMSM`. -/
def magic : List UInt8 := [0x52, 0x4D, 0x53, 0x4D]

/-- Major and minor version. -/
def version : List UInt8 := [1, 0]

/-- The registers, by number. -/
def registers : List String := ["I", "II", "III", "IV", "V", "VI", "VII", "VIII"]

/-- The segment registers, by number. -/
def segments : List String := ["CS", "DS", "ES", "SS", "FS", "GS"]

/-- Stands before an immediate number. -/
def immediateFlag : UInt8 := 0x80

/-- Stands before memory, by register or by address. -/
def memoryFlag : UInt8 := 0x90

/-- Stands before a label's address. -/
def labelFlag : UInt8 := 0xA0

/-- Stands before a segment register. -/
def segmentFlag : UInt8 := 0xB0

/-- Stands for the register where memory is given by address. -/
def absoluteMarker : UInt8 := 0xFF

/-- A number below `2^16` as two bytes, the low one first. -/
def wordBytes (n : Nat) : List UInt8 := [UInt8.ofNat (n % 256), UInt8.ofNat (n / 256)]

/-- A field of two bytes, if the number fits. -/
def word (field : Field) (n : Int) : Except GenerationFault (List UInt8) :=
  if 0 ≤ n ∧ n ≤ 0xFFFF then .ok (wordBytes n.toNat) else .error (.tooWide field n)

/-- The number of a register. -/
def registerByte? : Value → Option UInt8
  | .name s => (registers.idxOf? s).map UInt8.ofNat
  | _ => none

/-- The number of a segment register, whose name may be in small letters. -/
def segmentByte? (v : Value) : Option UInt8 :=
  (segments.idxOf? (Text.capitals v.text)).map UInt8.ofNat

/-! ## Operands -/

/-- A register's byte. -/
def encodeRegister (v : Value) : Except GenerationFault UInt8 :=
  match registerByte? v with
  | some b => .ok b
  | none => .error (.unknownRegister v)

/-- An immediate number, negative ones in two's complement. -/
def encodeImmediate : Value → Except GenerationFault (List UInt8)
  | .number n => .ok (immediateFlag :: wordBytes (n % 0x10000).toNat)
  | v => .error (.immediateNotNumber v)

/-- The address that a label operand stands for. A name decides over the value, and a value may be a
name as well. -/
def labelAddress (address? : String → Option Int) (o : Operand) : Except GenerationFault Int :=
  match o.labelName, o.value with
  | some name, _ =>
    match address? name with
    | some a => .ok a
    | none => .error (.unknownLabel name)
  | none, .number a => .ok a
  | none, .name s =>
    match address? s with
    | some a => .ok a
    | none => .error (.unknownTarget (.name s))
  | none, .absent => .error (.unknownTarget .absent)

/-- A label operand. -/
def encodeLabel (address? : String → Option Int) (o : Operand) :
    Except GenerationFault (List UInt8) := do
  let a ← labelAddress address? o
  return labelFlag :: (← word .labelAddress a)

/-- A segment register. -/
def encodeSegment (v : Value) : Except GenerationFault (List UInt8) :=
  match segmentByte? v with
  | some b => .ok [segmentFlag, b]
  | none => .error (.unknownSegment v)

/-- Memory at an address or at a register. -/
def encodeMemory : Value → Except GenerationFault (List UInt8)
  | .number n => do return memoryFlag :: absoluteMarker :: (← word .memoryAddress n)
  | v => do return [memoryFlag, ← encodeRegister v, 0x00]

/-- One operand, with the labels that it may name. -/
def encodeOperand (address? : String → Option Int) (o : Operand) :
    Except GenerationFault (List UInt8) :=
  match o.kind with
  | .register => do return [← encodeRegister o.value]
  | .immediate => encodeImmediate o.value
  | .label => encodeLabel address? o
  | .segment => encodeSegment o.value
  | .memory => encodeMemory o.value
  | .foreign kind => .error (.unsupportedOperand kind)

/-! ## Instructions, data and labels -/

/-- An instruction: the operation, then its operands. -/
def encodeInstruction (address? : String → Option Int) (i : Instruction) :
    Except GenerationFault (List UInt8) :=
  match i.opcode.byte? with
  | none => .error (.unknownOpcode i.opcode.name)
  | some b => do return b :: (← i.operands.mapM (encodeOperand address?)).flatten

/-- The instruction at an index; a fault says where it is. -/
def encodeInstructionAt (address? : String → Option Int) (i : Instruction) (index : Nat) :
    Except GenerationFault (List UInt8) :=
  (encodeInstruction address? i).mapError (.atInstruction index)

/-- A data cell takes one byte: a number modulo 256, or bytes if they are just one. -/
def encodeItem (d : DataItem) : Except GenerationFault UInt8 :=
  match d.value with
  | .number n => .ok (UInt8.ofNat (n % 0x100).toNat)
  | .bytes [b] => .ok b
  | .bytes content => .error (.wideCell d.address content.length)

/-- A label: its name after the name's length, then its address. -/
def encodeLabelEntry : String × Int → Except GenerationFault (List UInt8)
  | (name, address) => do
    let bytes := name.toUTF8.data.toList
    if bytes.length > 0xFF then throw (.longLabelName name)
    return UInt8.ofNat bytes.length :: bytes ++ (← word (.addressOf name) address)

/-- The whole program. -/
def encode (p : Program) : Except GenerationFault (List UInt8) := do
  let index := p.labels.index
  let address? (name : String) : Option Int := index[name]?
  let instructionCount ← word .instructionCount p.instructions.length
  let instructions ← p.instructions.zipIdx.mapM fun (i, k) => encodeInstructionAt address? i k
  let dataCount ← word .dataCount p.data.length
  let data ← p.data.mapM encodeItem
  let labelCount ← word .labelCount p.labels.size
  let labels ← p.labels.entries.mapM encodeLabelEntry
  return magic ++ version ++ instructionCount ++ instructions.flatten ++ dataCount ++ data ++
    labelCount ++ labels.flatten

/-- What a successful encoding reports. -/
def note (p : Program) (size : Nat) : String :=
  "Encoded " ++ toString p.layout.code ++ " instructions, " ++ toString p.layout.data ++
    " data items, " ++ toString p.labels.size ++ " labels into " ++ toString size ++ " bytes"

end Bytecode

end BootLink
