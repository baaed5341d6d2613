/-
# `BootLink.Link.Merge` — linking programs into one

`merge` puts a freshly assembled library behind a primary, which may itself be the result of
earlier merges. `link` folds it over a list of programs. Two things stop a merge: a library that is
linked already, since its addresses would move a second time, and a label that both sides define.
-/
import BootLink.Link.Rebase

namespace BootLink

/-- Why programs cannot be linked. -/
inductive RelocationFault
  | alreadyLinked (library : String)
  | duplicateLabel (label primary library : String)
  | nothingToLink
  /-- A fault that some other component reports, in its own words. -/
  | reported (message : String)
  deriving DecidableEq, Repr

/-- The fault in words. -/
def RelocationFault.message : RelocationFault → String
  | .alreadyLinked library =>
    "cannot merge linked program '" ++ library ++ "' as a library: " ++
      "its addresses have already been rebased"
  | .duplicateLabel label primary library =>
    "label '" ++ label ++ "' is defined in both '" ++ primary ++ "' and '" ++ library ++ "'"
  | .nothingToLink => "nothing to link: no modules given"
  | .reported message => message

namespace Program

/-- The sizes that a merge of two programs starts from. -/
def placement (primary library : Program) : Placement := ⟨primary.layout, library.layout⟩

/-- The names of the units in a merge of the two. -/
def mergedSources (primary library : Program) : List String :=
  match primary.origin with
  | .linked sources => sources ++ [library.name]
  | .assembled => [primary.name, library.name]

/-- The two programs laid out as one. Meaningful where they share no label. -/
def combine (primary library : Program) : Program :=
  let p := placement primary library
  let primaryLabels := primary.classifiedLabels
  let libraryLabels := library.classifiedLabels
  { instructions := primary.instructions.map (·.rebasePrimary p) ++
      library.instructions.map (·.rebaseLibrary p)
    data := primary.data ++ library.data.map (·.rebase p.primary.data)
    labels := .ofList <| primaryLabels.map (·.moved p.primaryAddress) ++
      libraryLabels.map (·.moved p.libraryAddress)
    tags := .ofList <| primary.tags.entries ++ library.tags.entries ++
      (primaryLabels.filter (·.pinnedInPrimary)).map (·.pin) ++
      (libraryLabels.filter (·.pinnedInLibrary)).map (·.pin)
    name := primary.name
    origin := .linked (primary.mergedSources library) }

/-- Puts a library behind a primary. -/
def merge (primary library : Program) : Except RelocationFault Program :=
  if library.isLinked then .error (.alreadyLinked library.name)
  else match primary.labels.firstShared? library.labels with
    | some label => .error (.duplicateLabel label primary.name library.name)
    | none => .ok (primary.combine library)

/-- What a successful merge reports. -/
def mergeNote (primary library : Program) : String :=
  "Merged '" ++ library.name ++ "' into '" ++ primary.name ++ "': " ++
    toString library.layout.code ++ " instructions at " ++ toString primary.layout.code ++ ", " ++
    toString library.layout.data ++ " data items at offset " ++ toString primary.layout.data

/-- Programs linked from the left by a given merge; the first alone is only marked as linked. -/
def linkWith {m : Type → Type} [Monad m] (step : Program → Program → m Program)
    (nothing : m Program) : List Program → m Program
  | [] => nothing
  | first :: rest => rest.foldlM step first.asLinked

/-- Links programs in order, the primary first. -/
def link (programs : List Program) : Except RelocationFault Program :=
  linkWith merge (.error .nothingToLink) programs

end Program

end BootLink
