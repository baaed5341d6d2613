/-
# `BootLink.Path` — paths as text

A path is an anchor and the parts after it. Reading one drops empty parts and single dots, so runs
of slashes and slashes at the end vanish; parent steps stay, since only the file system knows where
they lead. Exactly two slashes in front are an anchor of their own.
-/
import BootLink.Text.Quoted
import BootLink.Text.Search

namespace BootLink

/-- Where a path starts. -/
inductive Anchor
  | relative
  | root
  | doubleRoot
  deriving DecidableEq, Repr

/-- The anchor as it is written. -/
def Anchor.text : Anchor → String
  | .relative => ""
  | .root => "/"
  | .doubleRoot => "//"

/-- The anchor of a text, by the slashes in front. -/
def Anchor.ofChars (s : List Char) : Anchor :=
  match (s.takeWhile (· = '/')).length with
  | 0 => .relative
  | 2 => .doubleRoot
  | _ => .root

/-- An anchor and the parts after it. -/
structure Path where
  anchor : Anchor := .relative
  parts : List String
  deriving DecidableEq, Repr

namespace Path

instance : Inhabited Path := ⟨{ parts := [] }⟩

/-- The path of a text. -/
def ofText (s : String) : Path :=
  { anchor := .ofChars s.toList
    parts := ((Text.pieces '/' s.toList).map String.ofList).filter fun part =>
      part ≠ "" ∧ part ≠ "." }

/-- The text of a path; that of the empty one is a dot. -/
def text (p : Path) : String :=
  if p.anchor = .relative ∧ p.parts = [] then "."
  else p.anchor.text ++ "/".intercalate p.parts

/-- Whether a path starts at the root. -/
def isAbsolute (p : Path) : Bool := p.anchor ≠ .relative

/-- A path seen from another one. An absolute path is the same from everywhere. -/
def join (base p : Path) : Path :=
  if p.isAbsolute then p else { base with parts := base.parts ++ p.parts }

/-- A path given as text, seen from another one. -/
def child (base : Path) (s : String) : Path := base.join (ofText s)

/-- Whether files can have such a path. A null character ends a name. -/
def isValid (p : Path) : Bool := !p.text.toList.contains '\x00'

/-- The path without its last part. -/
def parent (p : Path) : Path := { p with parts := p.parts.dropLast }

/-- The last part, empty if there is none. -/
def name (p : Path) : String := p.parts.getLast?.getD ""

/-! ## Stem and suffix -/

/-- A name before and after the start of its suffix, which is the last dot, if that is neither the
first nor the last character. -/
def splitSuffix (name : List Char) : List Char × List Char :=
  let suffix := (name.reverse.takeWhile (· ≠ '.')).reverse
  let stem := name.take (name.length - suffix.length - 1)
  if stem.isEmpty || suffix.isEmpty || suffix.length = name.length then (name, [])
  else (stem, '.' :: suffix)

/-- The name without its suffix. -/
def stem (p : Path) : String := String.ofList (splitSuffix p.name.toList).1

/-- The suffix with its dot, or nothing. -/
def suffix (p : Path) : String := String.ofList (splitSuffix p.name.toList).2

/-- The path with another last part; there must be one to replace. -/
def withName? (p : Path) (name : String) : Option Path :=
  if p.name = "" then none else some { p with parts := p.parts.dropLast ++ [name] }

end Path

end BootLink
