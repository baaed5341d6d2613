/-
# `BootLink.Catalogue.Listing` — catalogues written as text

A listing says in lines of words which units there are, which names each of them has, and what the
names stand for. The first sign of a line tells what it is about:

    @group name …       names that many lines have, written once
    .unit name …        the names in a unit, which is called after a root; a dot alone is the root
    :kind name …        names of things of a kind
    =enum name:value …  an enumeration with its values
    +class name …       what it takes to make an object of a class
    <class class …      classes in which there also is what is in the first
    owner/kind name …   what is in a class, or in all things of a kind, by its own kind

A kind may be a text, which follows the sign `~`; and the sign `^` alone is the name of the thing
that it is in, as a text. Two more say that a name stands for a class: after the sign `>` is the
kind of its objects, and after the sign `!` what cannot be made. A kind with a type, which follows
the sign `=`, is one of things that stand for it; nothing after that sign is for no type in
particular, and `^` for the type of the thing's own name. A name without a kind stands for a class,
if it starts with a capital letter, or else for a function. In every class there is what is in
`type`, in every enumeration what is in `EnumType`, and in every unit what is in a `module`. A
number as a value of an enumeration is no text. Things are found step by step, so `follow` goes as
deep as a listing does.
-/
import BootLink.Catalogue
import BootLink.Text.Words

namespace BootLink

/-- What has been read of a listing. -/
structure Listing where
  /-- The names that a group stands for. -/
  groups : List (String × List String) := []
  /-- The names in each unit. -/
  units : List (String × List String) := []
  /-- The kinds of names. -/
  kinds : List (String × String) := []
  /-- The names and values of each enumeration. -/
  values : List (String × List (String × String)) := []
  /-- What an object of each class takes. -/
  arguments : List (String × List String) := []
  /-- Pairs of classes where the second has what the first has. -/
  bases : List (String × String) := []
  /-- What is in each class or kind: its name and its own kind. -/
  parts : List (String × String × String) := []

namespace Listing

/-! ## Reading -/

/-- The names that are meant: a group stands for its names. -/
def expand (l : Listing) (names : List String) : List String :=
  names.flatMap fun name => (l.groups.lookup name).getD [name]

/-- A text before and after its first place of a sign. -/
def splitAt (sign : Char) (text : List Char) : String × String :=
  match Text.cut [sign] text with
  | some (before, after) => (String.ofList before, String.ofList after)
  | none => (String.ofList text, "")

/-- Reads a line. -/
def add (l : Listing) (line : String × List String) : Listing :=
  let names := l.expand line.2
  match line.1.toList with
  | '@' :: _ => { l with groups := l.groups ++ [(line.1, names)] }
  | '.' :: unit => { l with units := l.units ++ [(String.ofList unit, names)] }
  | ':' :: kind => { l with kinds := l.kinds ++ names.map (·, String.ofList kind) }
  | '=' :: enum =>
    { l with values := l.values ++ [(String.ofList enum, names.map (splitAt ':' ·.toList))] }
  | '+' :: cls => { l with arguments := l.arguments ++ [(String.ofList cls, names)] }
  | '<' :: base => { l with bases := l.bases ++ names.map (String.ofList base, ·) }
  | key =>
    let (owner, kind) := splitAt '/' key
    { l with parts := l.parts ++ names.map (owner, ·, kind) }

/-- Reads a listing. -/
def ofText (text : String) : Listing := (Text.entries text).foldl add {}

/-! ## Things and their kinds -/

/-- Something of a kind. -/
def ofKind (name kind : String) : Member :=
  match kind.toList with
  | '~' :: content => .ofText (String.ofList content)
  | '>' :: kind => .ofKind (String.ofList kind)
  | '!' :: what =>
    .factory (.error (.broken .badCall (String.ofList what ++ " cannot be instantiated")))
  | text =>
    match Text.cut ['='] text with
    | some (kind, type) =>
      let type? := if type.isEmpty then none else
        some (if type = ['^'] then name else String.ofList type)
      .ready { shape := .typeForm (String.ofList kind) type? }
    | none => if kind = "module" then .ready { shape := .unit name } else .ofKind kind

/-- The owners of what is in a class or in a thing of a kind. A text is a `str`. -/
def owners (l : Listing) (kind : String) : List String :=
  let own := if kind.toList.head? = some '~' then "str" else kind
  own :: (l.bases.filter (·.2 = own)).map (·.1)

/-- The kind of what has a name in one of several owners; `whole` is the name of the thing in which
it is. -/
def partKind? (l : Listing) (whole : String) (owners : List String) (name : String) :
    Option String :=
  let found := l.parts.find? fun (owner, part, _) => part = name && owners.contains owner
  found.map fun (_, _, kind) => if kind = "^" then "~" ++ whole else kind

/-- What the steps of a name mean in a thing of a kind. -/
def follow (l : Listing) (name kind : String) : List String → Option Member
  | [] => some (ofKind name kind)
  | step :: rest =>
    (l.partKind? name (l.owners kind) step).bind fun kind => follow l step kind rest

/-! ## Classes and enumerations -/

/-- What asking for a class gives: an object, which is the library's own or has no services, or a
refusal if something is needed to make it. -/
def object (l : Listing) (cls : String) : Member :=
  match l.values.lookup cls, l.arguments.lookup cls with
  | some _, _ => .needing "EnumType.__call__" ["value"]
  | _, some arguments => .needing (cls ++ ".__init__") arguments
  | _, _ =>
    let own := [Component.passThrough, .bytecodeWriter].find? (·.shape = .instanceOf cls)
    .factory (.ok (own.getD { shape := .instanceOf cls }))

/-- What the steps mean in a value of an enumeration: its name, what it stands for, and the other
values. -/
def value? (l : Listing) (enum : String) (values : List (String × String)) :
    String → List String → Option Member
  | name, [] => (values.lookup name).map fun _ => .ofKind enum
  | name, step :: rest =>
    (values.lookup name).bind fun value =>
      if step = "name" then l.follow step ("~" ++ name) rest
      else if step = "value" then
        l.follow step (if value.toNat?.isSome then "int" else "~" ++ value) rest
      else value? l enum values step rest

/-- What the steps mean in a class. -/
def inClass? (l : Listing) (cls : String) : List String → Option Member
  | [] => some (l.object cls)
  | step :: rest =>
    let values := l.values.lookup cls
    let owners := l.owners cls ++ (if values.isSome then ["EnumType"] else []) ++ ["type"]
    let part := (l.partKind? cls owners step).bind fun kind => l.follow step kind rest
    part.or (values.bind fun values => l.value? cls values step rest)

/-! ## Units -/

/-- What the steps mean in a unit with some names. -/
def member? (l : Listing) (unit : String) (names : List String) : List String → Option Member
  | [] => none
  | name :: rest =>
    if names.contains name then
      match l.kinds.lookup name with
      | some kind =>
        if kind.toList.head?.any ['>', '!'].contains && !rest.isEmpty then l.inClass? name rest
        else l.follow name kind rest
      | none =>
        if name.toList.head?.any (·.isUpper) then l.inClass? name rest
        else l.follow name "function" rest
    else (l.partKind? unit ["module"] name).bind fun kind => l.follow name kind rest

/-- The units of a listing below a root. -/
def catalogue (l : Listing) (root : String) : Catalogue :=
  l.units.map fun (unit, names) =>
    let name := if unit = "" then root else root ++ "." ++ unit
    (name, ⟨l.member? name names⟩)

end Listing

/-- The components that come with the library. -/
def Catalogue.builtIn : Catalogue :=
  (Listing.ofText ". PassThroughOptimizer RomasmBytecodeGenerator").catalogue "bootlink"

end BootLink
