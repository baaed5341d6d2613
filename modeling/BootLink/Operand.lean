/-
# `BootLink.Operand` — what an instruction works on

An operand is a kind with a value: an immediate number, a register or segment by its name, memory
at an address or a register, or a label. A label is given by its name, to be looked up when
bytecode is written, or already as an address; then a tag may say what the address means. Values
come from outside and may not suit their kind, which shows only when the operand is encoded.
-/
import BootLink.Opcode
import BootLink.Text.Numeral
import BootLink.Text.Quoted

namespace BootLink

/-- What an address means, and so how linking treats it. -/
inductive AddressKind
  /-- An index into the instructions of the unit that uses it. -/
  | code
  /-- A place in the data of the unit that uses it. -/
  | data
  /-- A fixed address, never moved. -/
  | absolute
  /-- Not bound yet, never moved. -/
  | unresolved
  deriving DecidableEq, Repr

namespace AddressKind

/-- Every kind. -/
def all : List AddressKind := [code, data, absolute, unresolved]

/-- The name of a kind. -/
def name : AddressKind → String
  | code => "code"
  | data => "data"
  | absolute => "absolute"
  | unresolved => "unresolved"

/-- The kind of a name. -/
def ofName? (name : String) : Option AddressKind := all.find? (·.name = name)

end AddressKind

/-- The variants of operands; a foreign one is kept by its name. -/
inductive OperandKind
  | immediate | register | label | memory | segment
  | foreign (name : String)
  deriving DecidableEq, Repr

namespace OperandKind

/-- The variants that can be encoded. -/
def all : List OperandKind := [immediate, register, label, memory, segment]

/-- The name of a variant. -/
def name : OperandKind → String
  | immediate => "immediate"
  | register => "register"
  | label => "label"
  | memory => "memory"
  | segment => "segment"
  | foreign name => name

/-- The variant of a name. -/
def ofName (name : String) : OperandKind := (all.find? (·.name = name)).getD (foreign name)

end OperandKind

/-- The value of an operand. -/
inductive Value
  | absent
  | number (n : Int)
  | name (s : String)
  deriving DecidableEq, Repr

namespace Value

/-- The value as plain text. -/
def text : Value → String
  | absent => "None"
  | number n => toString n
  | name s => s

/-- The value as a message shows it, a name between quotes. -/
def shown : Value → String
  | absent => "None"
  | number n => toString n
  | name s => Text.quoted s

/-- Whether the value may be written. Only a number can be too long. -/
def isWritable : Value → Bool
  | number n => Text.isWritable n
  | absent | name _ => true

end Value

/-- One operand. The label's name, if there is one, decides over the value. -/
structure Operand where
  kind : OperandKind
  value : Value := .absent
  labelName : Option String := none
  tag : Option AddressKind := none
  deriving DecidableEq, Repr

namespace Operand

/-- The address of a label operand that is already a number. -/
def target? (o : Operand) : Option Int :=
  match o.kind, o.labelName, o.value with
  | .label, none, .number a => some a
  | _, _, _ => none

/-- Moves the address of a label operand that is already a number; others stay as they are. -/
def moveTarget (move : Option AddressKind → Int → Int) (o : Operand) : Operand :=
  match o.target? with
  | some a => { o with value := .number (move o.tag a) }
  | none => o

end Operand

/-- An operation with its operands. -/
structure Instruction where
  opcode : Opcode
  operands : List Operand := []
  deriving DecidableEq, Repr

end BootLink
