/-
# `BootLink.Text.Numeral` — how long a written number may be

Numbers are written in decimal digits, and no text holds a number of more than 4300 of them. A
longer number can be computed with, moved and compared; only what would name it cannot be put into
words.
-/

namespace BootLink.Text

/-- How many digits a written number may have, the sign not counted. -/
def digitLimit : Nat := 4300

/-- The first number that has more digits. -/
def numeralBound : Nat := Nat.pow 10 digitLimit

/-- Whether a number may be written. -/
def isWritable (n : Int) : Bool := n.natAbs < numeralBound

/-- The digits of a number, after its sign if it is negative. -/
def numeral? (n : Int) : Option String := if isWritable n then some (toString n) else none

theorem numeral?_eq_none_iff {n : Int} : numeral? n = none ↔ numeralBound ≤ n.natAbs := by
  simp [numeral?, isWritable]

theorem ten_le_numeralBound : 10 ≤ numeralBound := by
  have some_digit : 0 < digitLimit := by decide
  unfold numeralBound
  generalize digitLimit = d at some_digit
  exact Nat.le_pow some_digit

/-- A number of one digit may be written. -/
theorem isWritable_of_lt_ten {n : Int} (small : n.natAbs < 10) : isWritable n = true :=
  decide_eq_true (Nat.lt_of_lt_of_le small ten_le_numeralBound)

theorem isWritable_numeralBound : isWritable numeralBound = false := by
  rw [isWritable, Int.natAbs_natCast]
  exact decide_eq_false (Nat.lt_irrefl numeralBound)

end BootLink.Text
