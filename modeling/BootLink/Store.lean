/-
# `BootLink.Store` — directories and files

A store maps locations, which are lists of names from the root down, to directories and files. It
knows the directory that relative paths start from. `walk` follows the steps of a path: each step
but the last must lead through a directory, and a parent step goes up from where the path has led.
Names and paths have a greatest length. Every refusal is one of the system's conditions.

`write` puts a whole content in its place. A disk can be full, or be broken in places, so a store
also knows where a write fails. `writeOut` tells what becomes of a write then: a file is emptied
when it is opened for writing, and it may take no more than a part of its new content.
-/
import BootLink.Failure

namespace BootLink

/-- The names from the root down to a directory or file. -/
abbrev Location := List String

/-- What stands at a location. -/
inductive Node
  | directory
  | file (content : ByteArray)

instance : DecidableEq Node
  | .directory, .directory => isTrue rfl
  | .directory, .file _ => isFalse nofun
  | .file _, .directory => isFalse nofun
  | .file a, .file b =>
    match ByteArray.instDecidableEq a b with
    | isTrue h => isTrue (h ▸ rfl)
    | isFalse h => isFalse fun e => h (Node.file.inj e)

/-- How a write can fail where a file stands or could stand. -/
inductive WriteFault
  /-- The file cannot be opened, and stays as it is. -/
  | refused (condition : SystemCondition)
  /-- The file takes so many bytes and no more. -/
  | cutShort (kept : Nat) (condition : SystemCondition) (message : String)
  /-- The text that is to be written has no encoding. This is found when the file is open. -/
  | notEncodable (message : String)
  deriving DecidableEq, Repr

namespace WriteFault

/-- How many bytes of its new content the file has taken, if it was opened. -/
def kept? : WriteFault → Option Nat
  | refused _ => none
  | cutShort kept .. => some kept
  | notEncodable _ => some 0

/-- What a write to a path fails with. -/
def failure (p : Path) : WriteFault → Failure
  | refused condition => .system condition (.onPath p)
  | cutShort _ condition message => .system condition (.reported message)
  | notEncodable message => .broken .badValue message

end WriteFault

/-- Directories and files, and the directory that relative paths start from. The root is a directory
without an entry. -/
structure Store where
  entries : Table Location Node := ∅
  here : Location := []
  /-- Where a write fails, and how. -/
  fault? : Location → Option WriteFault := fun _ => none

namespace Store

/-- What stands at a location. -/
def get? (s : Store) (l : Location) : Option Node :=
  if l = [] then some .directory else s.entries.get? l

/-- The store with something else at a location. -/
def set (s : Store) (l : Location) (n : Node) : Store := { s with entries := s.entries.insert l n }

/-- The store of what was found, each at its location. -/
def ofFound (found : List (Location × Node)) (here : Location) : Store :=
  { entries := .ofList found, here }

/-- How many bytes a name can have. -/
def nameLimit : Nat := 255

/-- How many bytes a path can have. -/
def pathLimit : Nat := 4095

/-- Where the steps lead from a location. The last one may lead to nothing. -/
def walk (s : Store) : Location → List String → Except SystemCondition Location
  | l, [] => .ok l
  | l, step :: rest =>
    match s.get? l with
    | none => .error .missing
    | some (.file _) => .error .notDirectory
    | some .directory =>
      if step = "." then s.walk l rest
      else if step = ".." then s.walk l.dropLast rest
      else if nameLimit < step.utf8ByteSize then .error .nameTooLong
      else s.walk (l ++ [step]) rest

/-- Where a path leads. -/
def locate (s : Store) (p : Path) : Except SystemCondition Location :=
  if pathLimit < p.text.utf8ByteSize then .error .nameTooLong
  else s.walk (if p.isAbsolute then [] else s.here) p.parts

/-- What stands where a path leads. -/
def node? (s : Store) (p : Path) : Option Node :=
  match s.locate p with
  | .ok l => s.get? l
  | .error _ => none

/-- Whether a path leads to a file. -/
def isFile (s : Store) (p : Path) : Bool :=
  match s.node? p with
  | some (.file _) => true
  | _ => false

/-- Whether a path leads to a directory. -/
def isDirectory (s : Store) (p : Path) : Bool :=
  match s.node? p with
  | some .directory => true
  | _ => false

/-- What a path leads to in its literal spelling. Unlike in a `Path`, an empty step counts: it can
only be taken in a directory, and the empty text leads nowhere. -/
def nodeOfText? (s : Store) (text : String) : Option Node :=
  let steps := (Text.pieces '/' text.toList).map fun step =>
    if step.isEmpty then "." else String.ofList step
  let start := if text.toList.head? = some '/' then [] else s.here
  if text = "" || pathLimit < text.utf8ByteSize then none
  else match s.walk start steps with
    | .ok l => s.get? l
    | .error _ => none

/-- The content of a file. -/
def read (s : Store) (p : Path) : Except SystemCondition ByteArray := do
  match s.get? (← s.locate p) with
  | none => .error .missing
  | some .directory => .error .isDirectory
  | some (.file content) => .ok content

/-- The store with a file's content replaced, or a new file in a directory that exists. -/
def write (s : Store) (p : Path) (content : ByteArray) : Except SystemCondition Store := do
  let l ← s.locate p
  match s.get? l with
  | some .directory => .error .isDirectory
  | _ => .ok (s.set l (.file content))

/-- The fault that a write to a path meets. -/
def faultAt? (s : Store) (p : Path) : Option WriteFault :=
  match s.locate p with
  | .ok l => s.fault? l
  | .error _ => none

/-- The store after a write that was cut short, with the first bytes of the content. -/
def writeUpTo (s : Store) (p : Path) (content : ByteArray) (kept : Nat) : Store :=
  match s.write p (content.extract 0 kept) with
  | .ok t => t
  | .error _ => s

/-- How a write to a path ends, and the store that it leaves. -/
def writeOut (s : Store) (p : Path) (content : ByteArray) : Except Failure Unit × Store :=
  match s.write p content, s.faultAt? p with
  | .error c, _ => (.error (.system c (.onPath p)), s)
  | .ok t, none => (.ok ⟨⟩, t)
  | .ok _, some fault =>
    (.error (fault.failure p), match fault.kept? with
      | none => s
      | some kept => s.writeUpTo p content kept)

/-- The store with a new directory in one that exists. -/
def makeDirectory (s : Store) (p : Path) : Except SystemCondition Store := do
  let l ← s.locate p
  match s.get? l with
  | some _ => .error .occupied
  | none => .ok (s.set l .directory)

/-! ## Removal -/

/-- The store without what stands at a location. -/
def erase (s : Store) (l : Location) : Store :=
  { s with entries := s.entries.filterKeys (· ≠ l) }

/-- The store without what stands below a location. -/
def clear (s : Store) (l : Location) : Store :=
  { s with entries := s.entries.filterKeys fun k => !l.isPrefixOf k || k == l }

/-- Whether nothing stands below a location. -/
def isClear (s : Store) (l : Location) : Bool :=
  s.entries.keys.all fun k => !l.isPrefixOf k || k == l

/-- The store without a file. -/
def removeFile (s : Store) (p : Path) : Except SystemCondition Store := do
  let l ← s.locate p
  match s.get? l with
  | none => .error .missing
  | some .directory => .error .isDirectory
  | some (.file _) => .ok (s.erase l)

/-- The store without a directory, which must be empty and be called by its own name. -/
def removeDirectory (s : Store) (p : Path) : Except SystemCondition Store := do
  let l ← s.locate p
  match s.get? l with
  | none => .error .missing
  | some (.file _) => .error .notDirectory
  | some .directory =>
    if p.parts = [] then .error .invalid
    else if p.name = ".." || !s.isClear l then .error .notEmpty
    else .ok (s.erase l)

/-! ## Comparison -/

/-- What a later store has that this one has not, or has otherwise. -/
def changes (s later : Store) : List (Location × Node) :=
  later.entries.entries.filter fun (l, n) => s.entries.get? l ≠ some n

/-- What a later store has no more. -/
def losses (s later : Store) : List Location :=
  s.entries.keys.filter fun l => (later.entries.get? l).isNone

end Store

end BootLink
