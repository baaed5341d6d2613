/-
# `BootLink.Diagnostic` — what a source assembler finds wrong

An assembler collects all it finds in a unit, so that a failure shows the whole batch. Each problem
names its line. A line whose number has too many digits cannot be named, and a batch with such a
problem in it cannot be told at all.
-/
import BootLink.Text.Numeral

namespace BootLink

/-- One problem: its line, what it is, and the piece of source, if any. -/
structure Diagnostic where
  line : Int
  message : String
  code : String := ""
  deriving DecidableEq, Repr

namespace Diagnostic

/-- The problem in words, the piece of source on a line of its own, if its line can be named. -/
def text? (d : Diagnostic) : Option String :=
  (Text.numeral? d.line).map fun line =>
    "Line " ++ line ++ ": " ++ d.message ++ if d.code = "" then "" else "\n    Code: " ++ d.code

/-- The words for a problem, none if its line cannot be named. -/
def text (d : Diagnostic) : String := d.text?.getD ""

/-- A batch of problems in words, if every one of them can be told. -/
def batchText? (unit : String) (ds : List Diagnostic) : Option String :=
  let count := ds.length
  let head := "assembly of " ++ unit ++ " failed with " ++ toString count ++
    (if count = 1 then " error" else " errors")
  (ds.mapM text?).map fun texts => "\n".intercalate (head :: texts.map ("  " ++ ·))

/-- The words for a batch of problems, none if one of them cannot be told. -/
def batchText (unit : String) (ds : List Diagnostic) : String := (batchText? unit ds).getD ""

theorem text?_eq_none_iff {d : Diagnostic} :
    d.text? = none ↔ Text.numeralBound ≤ d.line.natAbs := by
  rw [text?, Option.map_eq_none_iff, Text.numeral?_eq_none_iff]

theorem mapM_text?_eq_none_iff {ds : List Diagnostic} :
    ds.mapM text? = none ↔ ∃ d ∈ ds, d.text? = none := by
  induction ds with
  | nil => exact ⟨nofun, fun ⟨_, here, _⟩ => nomatch here⟩
  | cons d rest ih =>
    simp only [List.mapM_cons, List.mem_cons, exists_eq_or_imp, ← ih]
    cases d.text? with
    | none => exact ⟨fun _ => .inl rfl, fun _ => rfl⟩
    | some first =>
      cases rest.mapM text? with
      | none => exact ⟨fun _ => .inr rfl, fun _ => rfl⟩
      | some lines => exact ⟨nofun, fun h => h.elim nofun nofun⟩

/-- **A batch cannot be told just when one of its lines has too many digits.** -/
theorem batchText?_eq_none_iff {unit : String} {ds : List Diagnostic} :
    batchText? unit ds = none ↔ ∃ d ∈ ds, Text.numeralBound ≤ d.line.natAbs := by
  rw [batchText?, Option.map_eq_none_iff, mapM_text?_eq_none_iff]
  simp only [text?_eq_none_iff]

end Diagnostic

end BootLink
