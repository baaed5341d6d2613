/-
# `BootLink.Link.Rebase` — where addresses go when two programs become one

Merging puts the library's code after the primary's, and the library's data after the primary's
data, all data behind all code:

    primary code | library code | primary data | library data

So the primary's code stays, its data moves up by the library's code, the library's code moves up
by the primary's code, and the library's data moves to the end. An address moves only if it is
known to mean code or data of its own program: by its tag, or else, for a label, by its place. An
untagged operand counts as code only as the target of a control transfer into its own code.
-/
import BootLink.Program

namespace BootLink

/-- The sizes of two programs that are merged. -/
structure Placement where
  primary : Layout
  library : Layout
  deriving DecidableEq, Repr

namespace Placement

/-- Where the library's code starts. -/
def codeBase (p : Placement) : Nat := p.primary.code

/-- Where the library's data starts. -/
def dataBase (p : Placement) : Nat := p.primary.code + p.library.code + p.primary.data

/-- The new place of an address of the primary. -/
def primaryAddress (p : Placement) : AddressKind → Int → Int
  | .data, a => a + p.library.code
  | _, a => a

/-- The new place of an address of the library. -/
def libraryAddress (p : Placement) : AddressKind → Int → Int
  | .code, a => a + p.codeBase
  | .data, a => p.dataBase + (a - p.library.code)
  | _, a => a

end Placement

/-! ## Operands and instructions -/

/-- What an untagged operand means: code, if it is where control goes and lies in the code. -/
def Layout.impliedKind (l : Layout) (isTransfer : Bool) (a : Int) : AddressKind :=
  if isTransfer && l.isCode a then .code else .absolute

/-- An operand of the primary: only a tag makes it move. -/
def Operand.rebasePrimary (p : Placement) (o : Operand) : Operand :=
  o.moveTarget fun tag a => p.primaryAddress (tag.getD .absolute) a

/-- An operand of the library. -/
def Operand.rebaseLibrary (p : Placement) (isTransfer : Bool) (o : Operand) : Operand :=
  o.moveTarget fun tag a => p.libraryAddress (tag.getD (p.library.impliedKind isTransfer a)) a

/-- An instruction of the primary. -/
def Instruction.rebasePrimary (p : Placement) (i : Instruction) : Instruction :=
  { i with operands := i.operands.map (·.rebasePrimary p) }

/-- An instruction of the library. Only its first operand can be where control goes. -/
def Instruction.rebaseLibrary (p : Placement) (i : Instruction) : Instruction :=
  match i.operands with
  | [] => i
  | first :: rest =>
    { i with operands := first.rebaseLibrary p i.opcode.isControlTransfer ::
        rest.map (·.rebaseLibrary p false) }

/-! ## Data and labels -/

/-- A data cell behind `base` others. -/
def DataItem.rebase (base : Nat) (d : DataItem) : DataItem :=
  { d with address := base + d.address }

/-- A label with its address and what the address means. -/
structure Label where
  name : String
  address : Int
  kind : AddressKind
  deriving DecidableEq, Repr

/-- The labels of a program, each classified by its tag or its place. -/
def Program.classifiedLabels (p : Program) : List Label :=
  let layout := p.layout
  let tags := p.tags.index
  p.labels.entries.map fun (name, a) => ⟨name, a, layout.classify tags[name]? a⟩

/-- A label's entry in the new table. -/
def Label.moved (move : AddressKind → Int → Int) (l : Label) : String × Int :=
  (l.name, move l.kind l.address)

/-- A label's entry in the new tags. -/
def Label.pin (l : Label) : String × AddressKind := (l.name, l.kind)

/-- Labels of the primary that are tagged from now on: the absolute ones, so that no later merge
reads them against a larger layout. -/
def Label.pinnedInPrimary (l : Label) : Bool := l.kind = .absolute

/-- Labels of the library that are tagged from now on: all that do not move. -/
def Label.pinnedInLibrary (l : Label) : Bool := l.kind = .absolute || l.kind = .unresolved

end BootLink
