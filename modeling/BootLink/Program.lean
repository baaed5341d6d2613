/-
# `BootLink.Program` — assembled units and linked programs

A program has instructions, data cells and labels. Addresses are plain integers: the instructions
come first, by their index, and the data cells follow them, so that the cell at offset `k` stands
at the number of instructions plus `k`. Linking keeps this layout for the combined program.

An assembled unit and a linked program have the same shape; `Origin` tells them apart and, for a
linked program, remembers the units that went into it.
-/
import BootLink.Operand
import BootLink.Table

namespace BootLink

/-- What a data cell holds: a number, or bytes as they stand. -/
inductive Cell
  | number (n : Int)
  | bytes (content : List UInt8)
  deriving DecidableEq, Repr

/-- A data cell at an offset of its unit's data. -/
structure DataItem where
  address : Int
  value : Cell
  deriving DecidableEq, Repr

/-- Where a program comes from: one assembled unit, or a link of the units named, in order. -/
inductive Origin
  | assembled
  | linked (sources : List String)
  deriving DecidableEq, Repr

/-- The sizes of a program's two parts. -/
structure Layout where
  code : Nat
  data : Nat
  deriving DecidableEq, Repr

namespace Layout

/-- The number of addresses. -/
def size (l : Layout) : Nat := l.code + l.data

/-- Whether an address is that of an instruction. -/
def isCode (l : Layout) (a : Int) : Bool := 0 ≤ a && a < l.code

/-- Whether an address is that of a data cell. -/
def isData (l : Layout) (a : Int) : Bool := l.code ≤ a && a < l.size

/-- What an address means by its place alone. -/
def kindOf (l : Layout) (a : Int) : AddressKind :=
  if l.isCode a then .code else if l.isData a then .data else .absolute

/-- What an address means; a tag decides over its place. -/
def classify (l : Layout) (tag : Option AddressKind) (a : Int) : AddressKind :=
  tag.getD (l.kindOf a)

end Layout

/-- The name of a unit that was given none. -/
def unnamed : String := "<module>"

/-- A program: one assembled unit, or several linked into one. -/
structure Program where
  instructions : List Instruction := []
  data : List DataItem := []
  labels : Table String Int := ∅
  tags : Table String AddressKind := ∅
  name : String := unnamed
  origin : Origin := .assembled
  deriving DecidableEq, Inhabited

namespace Program

/-- The sizes of the two parts. -/
def layout (p : Program) : Layout := ⟨p.instructions.length, p.data.length⟩

/-- Whether the program is the result of linking. -/
def isLinked (p : Program) : Bool :=
  match p.origin with
  | .assembled => false
  | .linked _ => true

/-- What a label's address means; nothing for a name that is neither tagged nor defined. -/
def classifyLabel? (p : Program) (label : String) : Option AddressKind :=
  match p.tags.get? label with
  | some tag => some tag
  | none => (p.labels.get? label).map p.layout.kindOf

/-- An assembled unit as a linked program of one source. A linked program stays as it is. -/
def asLinked (p : Program) : Program :=
  match p.origin with
  | .assembled => { p with origin := .linked [p.name] }
  | .linked _ => p

/-- Whether two programs agree in everything but the order of labels and tags. -/
def agrees (p q : Program) : Bool :=
  p.origin == q.origin && p.name == q.name && p.instructions == q.instructions &&
    p.data == q.data && p.labels.sameEntries q.labels && p.tags.sameEntries q.tags

end Program

end BootLink
