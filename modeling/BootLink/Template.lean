/-
# `BootLink.Template` — bytecode inside the boot loader's text

The boot loader is assembly text with one region for the program, between two markers. Splicing
replaces the region by a data line. The text must hold each marker exactly once, the start before
the end; anything else is a fault, and so is empty bytecode. The first fault in this order counts:
a marker missing, a marker repeated, the markers reversed, no bytecode.
-/
import BootLink.Text.Hex
import BootLink.Text.Search

namespace BootLink

/-- Why bytecode cannot be put into a template. -/
inductive TemplateFault
  | markerMissing
  | markerRepeated (starts ends : Nat)
  | markersReversed
  | emptyBytecode
  /-- A fault that some other component reports, in its own words. -/
  | reported (message : String)
  deriving DecidableEq, Repr

namespace Template

/-- Stands before the region. -/
def startMarker : String := "bytecode_start:"

/-- Stands after the region. -/
def endMarker : String := "bytecode_end:"

/-- A byte as an assembler's number. -/
def byteLiteral (b : UInt8) : List Char := '0' :: 'x' :: Text.hexByte b

/-- A line that defines the bytes. -/
def dataLine (blob : List UInt8) : List Char :=
  "db ".toList ++ (", ".toList).intercalate (blob.map byteLiteral)

/-- The region with its markers, the data line inside. -/
def region (blob : List UInt8) : List Char :=
  startMarker.toList ++ "\n    ".toList ++ dataLine blob ++ "\n".toList ++ endMarker.toList

/-- The text with the region between its markers replaced. -/
def spliceChars (template : List Char) (blob : List UInt8) : Except TemplateFault (List Char) :=
  let starts := Text.occurrences startMarker.toList template
  let ends := Text.occurrences endMarker.toList template
  if starts = 0 ∨ ends = 0 then .error .markerMissing
  else if starts > 1 ∨ ends > 1 then .error (.markerRepeated starts ends)
  else
    let after := (Text.cut startMarker.toList template).bind fun (before, rest) =>
      (Text.cut endMarker.toList rest).map fun (_, after) => (before, after)
    match after with
    | none => .error .markersReversed
    | some (before, after) =>
      if blob.isEmpty then .error .emptyBytecode else .ok (before ++ region blob ++ after)

/-- The template with the bytecode in place of its region. -/
def splice (template : String) (blob : List UInt8) : Except TemplateFault String :=
  (spliceChars template.toList blob).map String.ofList

end Template

/-- The fault in words. -/
def TemplateFault.message : TemplateFault → String
  | .markerMissing =>
    "placeholder region not found (need '" ++ Template.startMarker ++ "' ... '" ++
      Template.endMarker ++ "')"
  | .markerRepeated starts ends =>
    "placeholder region must occur exactly once (found " ++ toString starts ++ " start and " ++
      toString ends ++ " end markers)"
  | .markersReversed =>
    "'" ++ Template.endMarker ++ "' appears before '" ++ Template.startMarker ++ "'"
  | .emptyBytecode => "cannot embed empty bytecode"
  | .reported message => message

end BootLink
