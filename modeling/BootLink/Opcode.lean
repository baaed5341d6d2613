/-
# `BootLink.Opcode` — the operations of the virtual machine

Each operation has a long name, the short mnemonic that source text uses, and a byte. A name that
is none of these is kept as it was written, so that the fault can show it. The jumps and the call
are the control transfers: their first operand is the place where execution goes on.
-/

namespace BootLink

/-- An operation, or an unknown one by its name. -/
inductive Opcode
  | nop | load | store | add | sub | mul | div | inc | dec | cmp
  | jmp | jeq | jne | jlt | jgt | jle | jge | call | ret
  | push | pop | int | movSeg | cli | sti | iret | hlt
  | unknown (name : String)
  deriving DecidableEq, Repr

namespace Opcode

/-- Every operation of the machine, in the order of the bytes. -/
def all : List Opcode :=
  [nop, load, store, add, sub, mul, div, inc, dec, cmp, jmp, jeq, jne, jlt, jgt, jle, jge, call,
    ret, push, pop, int, movSeg, cli, sti, iret, hlt]

/-- The long name. -/
def name : Opcode → String
  | nop => "NOP" | load => "LOAD" | store => "STORE" | add => "ADD" | sub => "SUB"
  | mul => "MUL" | div => "DIV" | inc => "INC" | dec => "DEC" | cmp => "CMP"
  | jmp => "JMP" | jeq => "JEQ" | jne => "JNE" | jlt => "JLT" | jgt => "JGT"
  | jle => "JLE" | jge => "JGE" | call => "CALL" | ret => "RET" | push => "PUSH"
  | pop => "POP" | int => "INT" | movSeg => "MOV_SEG" | cli => "CLI" | sti => "STI"
  | iret => "IRET" | hlt => "HLT" | unknown name => name

/-- The mnemonic of source text. -/
def mnemonic : Opcode → String
  | nop => "NOP" | load => "L" | store => "X" | add => "A" | sub => "S"
  | mul => "M" | div => "DI" | inc => "I" | dec => "D" | cmp => "C"
  | jmp => "V" | jeq => "JE" | jne => "JN" | jlt => "JL" | jgt => "JG"
  | jle => "JLE" | jge => "JGE" | call => "CA" | ret => "R" | push => "P"
  | pop => "PO" | int => "INT" | movSeg => "MSEG" | cli => "CLI" | sti => "STI"
  | iret => "IRET" | hlt => "HLT" | unknown name => name

/-- The byte in bytecode. Unknown operations have none. -/
def byte? : Opcode → Option UInt8
  | nop => some 0x00 | load => some 0x01 | store => some 0x02 | add => some 0x03
  | sub => some 0x04 | mul => some 0x05 | div => some 0x06 | inc => some 0x07
  | dec => some 0x08 | cmp => some 0x09 | jmp => some 0x0A | jeq => some 0x0B
  | jne => some 0x0C | jlt => some 0x0D | jgt => some 0x0E | jle => some 0x0F
  | jge => some 0x10 | call => some 0x11 | ret => some 0x12 | push => some 0x13
  | pop => some 0x14 | int => some 0x15 | movSeg => some 0x16 | cli => some 0x17
  | sti => some 0x18 | iret => some 0x19 | hlt => some 0x1A | unknown _ => none

/-- Whether the first operand is the target of a jump or call. -/
def isControlTransfer : Opcode → Bool
  | jmp | jeq | jne | jlt | jgt | jle | jge | call => true
  | _ => false

/-- The operation of a long name; other names are unknown operations. -/
def ofName (name : String) : Opcode := (all.find? (·.name = name)).getD (unknown name)

/-- The operation of a mnemonic. -/
def ofMnemonic? (mnemonic : String) : Option Opcode := all.find? (·.mnemonic = mnemonic)

end Opcode

end BootLink
