/-
# `BootLink.Catalogue` — components by name

A component is named `unit:member`, and both names may have dots. A catalogue lists the units there
are; one with further units in it is a package, and those are members of it as well. A unit says
what the steps of a member's name mean. Some members are components as they stand, others are made
when they are asked for.
-/
import BootLink.Component
import BootLink.Config

namespace BootLink

/-- A member of a unit: a component, or a way to make one. -/
inductive Member
  | ready (component : Component)
  | factory (make : Except Failure Component)

/-- A text. -/
def Member.ofText (content : String) : Member := .ready { shape := .text content }

/-- Something of a kind, without services. -/
def Member.ofKind (kind : String) : Member := .ready { shape := .ofKind kind }

/-- A list in words. -/
def listing : List String → String
  | [] => ""
  | [a] => a
  | [a, b] => a ++ " and " ++ b
  | many => ", ".intercalate many.dropLast ++ ", and " ++ many.getLast?.getD ""

/-- A member that cannot be made from its name alone. -/
def Member.needing (maker : String) (arguments : List String) : Member :=
  .factory <| .error <| .broken .badCall <|
    maker ++ "() missing " ++ toString arguments.length ++ " required positional argument" ++
      (if arguments.length = 1 then ": " else "s: ") ++
      listing (arguments.map fun a => "'" ++ a ++ "'")

/-- The component that a member gives. -/
def Member.component : Member → Except Failure Component
  | .ready c => .ok c
  | .factory make => make

/-- A unit that components can be taken from: what the steps of a dotted name in it mean. -/
structure ComponentUnit where
  member? : List String → Option Member

/-- A unit with members by their full dotted names. -/
def ComponentUnit.ofList (members : List (String × Member)) : ComponentUnit :=
  ⟨fun steps => members.lookup (".".intercalate steps)⟩

/-- The units there are, by name. -/
abbrev Catalogue := List (String × ComponentUnit)

namespace Catalogue

/-- The steps of a dotted name. -/
def steps (name : String) : List String := (Text.pieces '.' name.toList).map String.ofList

/-- Whether a unit is a package, that is whether there are units in it. -/
def isPackage (units : Catalogue) (name : String) : Bool :=
  units.any fun (inner, _) => (name ++ ".").toList.isPrefixOf inner.toList

/-- What the steps of a dotted name mean in a unit: its own member, or else a unit in it or what the
further steps mean there. -/
def member? (units : Catalogue) (unit : String) : List String → Option Member
  | [] => none
  | step :: rest =>
    let own := (units.lookup unit).bind (·.member? (step :: rest))
    own.or <|
      let inner := unit ++ "." ++ step
      (units.lookup inner).bind fun _ =>
        match rest with
        | [] => some (.ready { shape := .unit inner })
        | next :: further => units.member? inner (next :: further)

/-- The dotted prefixes of a name, shortest first, the name itself last. -/
def prefixes (name : String) : List String :=
  (List.range (steps name).length).map fun k => ".".intercalate ((steps name).take (k + 1))

/-- Looks for a unit and, before it, for every package above it. The first that is missing is named;
if what holds it is there but no package, that is named too. -/
def checkUnitFrom (units : Catalogue) (name : String) :
    Option String → List String → Except ComponentFault Unit
  | _, [] => .ok ()
  | above, step :: rest =>
    match above.filter (!units.isPackage ·) with
    | some parent => .error (.unitNotPackage name step parent)
    | none =>
      if (units.lookup step).isSome then checkUnitFrom units name (some step) rest
      else .error (.unitNotFound name step)

/-- How many units may wait for each other at most. -/
def nestingLimit : Nat := 246

/-- How many units wait for each other when a name is looked up. A unit that is not there yet waits
for the package above it. -/
def nesting (units : Catalogue) (name : String) : Nat :=
  ((prefixes name).reverse.takeWhile fun step => (units.lookup step).isNone).length

/-- Looks for a unit. A name that starts with a dot is relative to a package, and here there is
none. One for which too many units would wait for each other is given up. -/
def checkUnit (units : Catalogue) (name : String) : Except Failure Unit :=
  if name.toList.head? = some '.' then
    .error <| .broken .badCall <|
      "the 'package' argument is required to perform a relative import for " ++ Text.quoted name
  else if nestingLimit < units.nesting name then
    .error (.broken .tooDeep "maximum recursion depth exceeded")
  else (checkUnitFrom units name none (prefixes name)).mapError .component

/-- The two halves of a component's name; both must be there. -/
def splitName? (name : String) : Option (String × String) :=
  match Text.cut [':'] name.toList with
  | some (u, m) => if u.isEmpty || m.isEmpty then none else some (String.ofList u, String.ofList m)
  | none => none

/-- The component of a name. -/
def find (units : Catalogue) (name : String) : Except Failure Component := do
  match splitName? name with
  | none => .error (.component (.malformedPath name))
  | some (unitName, memberName) =>
    checkUnit units unitName
    match units.member? unitName (steps memberName) with
    | some member => member.component
    | none => .error (.component (.memberNotFound unitName memberName))

/-- Takes a component out of the catalogue. -/
def load (units : Catalogue) (name : String) : Task Component := do
  let c ← Task.ofExcept (units.find name)
  Task.debug ("Loaded collaborator " ++ name)
  return c

/-- Takes a component out of the catalogue, if one is named. -/
def loadNamed (units : Catalogue) : Option String → Task (Option Component)
  | some name => if name = "" then return none else return some (← units.load name)
  | none => return none

/-- The components that a configuration names, the defaults for the others. -/
def components (units : Catalogue) (config : Config) : Task Components := do
  let assembler ← units.loadNamed config.assembler
  let native ← units.loadNamed config.nativeGenerator
  let optimizer ← units.loadNamed config.optimizer
  let bytecode ← units.loadNamed config.bytecodeGenerator
  return { assembler, native, optimizer := optimizer.getD .passThrough
           bytecode := bytecode.getD .bytecodeWriter }

end Catalogue

end BootLink
