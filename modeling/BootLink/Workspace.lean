/-
# `BootLink.Workspace` — programs by name, and which of them are one

While programs are merged and linked step by step it matters which names stand for the very same
program: marking a linked program as linked, or linking it alone, gives the program itself, and
everything else makes a new one. A workspace gives each program that is made a stamp of its own, so
that two names are one program just when their stamps agree.
-/
import BootLink.Build

namespace BootLink

/-- A program, and which one it is. -/
structure Stamped where
  program : Program
  stamp : Nat

/-- Programs by name, and the stamp that comes next. -/
structure Workspace where
  programs : Table String Stamped := ∅
  next : Nat := 0

namespace Workspace

/-- The program of a name. -/
def find (w : Workspace) (name : String) : Except Failure Stamped :=
  match w.programs.get? name with
  | some s => .ok s
  | none => .error (.missingKey name)

/-- Gives a program a stamp of its own. -/
def stamp (w : Workspace) (p : Program) : Stamped × Workspace :=
  (⟨p, w.next⟩, { w with next := w.next + 1 })

/-- Lets a name stand for a program. -/
def bind (w : Workspace) (name : String) (s : Stamped) : Workspace :=
  { w with programs := w.programs.insert name s }

/-- The names that stand for this very program. -/
def namesOf (w : Workspace) (s : Stamped) : List String :=
  (w.programs.entries.filter fun (_, t) => t.stamp = s.stamp).map Prod.fst

/-- A program marked as linked; one that is linked already is itself. -/
def wrap (w : Workspace) (s : Stamped) : Stamped × Workspace :=
  if s.program.isLinked then (s, w) else w.stamp s.program.asLinked

/-- Programs linked into one. One alone is only marked as linked. -/
def link (w : Workspace) (programs : List Stamped) : Task (Stamped × Workspace) :=
  match programs with
  | [s] => return w.wrap s
  | _ => return w.stamp (← Build.linkReported (programs.map (·.program)))

/-- Two programs merged into one. -/
def merge (w : Workspace) (primary library : Stamped) : Task (Stamped × Workspace) :=
  return w.stamp (← Build.mergeReported primary.program library.program)

end Workspace

end BootLink
