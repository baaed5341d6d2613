/-
# `BootLink.Seconds` — how long a program may run

A number of seconds is a double, held by its bits so that two of them can be compared. A limit is
only set by a positive number: zero, a negative number and an undefined one all mean "no limit".
-/
import BootLink.Decimal.Literal
import BootLink.Decimal.Shortest

namespace BootLink

/-- A number of seconds, by the bits of a double. -/
structure Seconds where
  bits : UInt64
  deriving DecidableEq, Repr

namespace Seconds

/-- The nearest number of seconds to a literal. -/
def ofLiteral (l : Decimal.Literal) : Seconds := ⟨UInt64.ofNat l.bits⟩

/-- A whole number of seconds. -/
def ofNat (n : Nat) : Seconds := ofLiteral (.finite false n 0)

/-- The number that a text stands for. -/
def ofText? (s : String) : Option Seconds := (Decimal.Literal.ofText? s).map ofLiteral

/-- Above zero, infinity included. -/
def isPositive (s : Seconds) : Bool := 0 < s.bits.toNat && s.bits.toNat ≤ Decimal.infinityBits

/-- The limit that a number of seconds sets. -/
def limit? (s : Seconds) : Option Seconds := if s.isPositive then some s else none

/-- Seconds are written out in full from `0.0001` up to sixteen digits before the point. -/
def style : Decimal.Style :=
  { leastInFull := -4, leastBeyond := 16, infinite := "inf", undefined := "nan" }

/-- The number in words. -/
def text (s : Seconds) : String := Decimal.text style s.bits.toNat

end Seconds

end BootLink
