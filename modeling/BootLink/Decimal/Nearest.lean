/-
# `BootLink.Decimal.Nearest` — the binary number nearest to a fraction

A double is `m · 2^q` with `m < 2^53` and `q ≥ -1074`. A fraction goes to the nearest one, and
half-way cases to the one with an even `m`. All of it is arithmetic on naturals; the result is the
sixty-four bits.
-/

namespace BootLink.Decimal

/-- The quotient rounded to the nearest natural, a half to the even neighbour. -/
def roundDiv (num den : Nat) : Nat :=
  let low := num / den
  let rest := 2 * (num % den)
  if rest < den then low
  else if rest > den then low + 1
  else if low % 2 = 0 then low else low + 1

/-- The bits of positive infinity. -/
def infinityBits : Nat := 0x7ff0000000000000

/-- The bits of the quiet number that is none. -/
def undefinedBits : Nat := 0x7ff8000000000000

/-- The exponent of the greatest power of two that is at most `num / den`. -/
def floorLog2 (num den : Nat) : Int :=
  let guess : Int := (Nat.log2 num : Int) - Nat.log2 den
  let size := Nat.pow 2 guess.natAbs
  let fits := if guess < 0 then den ≤ num * size else den * size ≤ num
  if fits then guess else guess - 1

/-- The bits of the double nearest to `num / den`. A carry out of the fifty-three digits lands in
the exponent, which is where it belongs. -/
def nearestBits (num den : Nat) : Nat :=
  if num = 0 then 0
  else
    let q := max (floorLog2 num den - 52) (-1074)
    let size := Nat.pow 2 q.natAbs
    let m := if q < 0 then roundDiv (num * size) den else roundDiv num (den * size)
    min ((q + 1074).toNat * Nat.pow 2 52 + m) infinityBits

/-- The value of a double's bits, sign left out: `(m, q)` stands for `m · 2^q`. -/
def ofBits (bits : Nat) : Nat × Int :=
  let exponent : Nat := bits / Nat.pow 2 52 % Nat.pow 2 11
  let fraction := bits % Nat.pow 2 52
  if exponent = 0 then (fraction, -1074) else (fraction + Nat.pow 2 52, Int.ofNat exponent - 1075)

end BootLink.Decimal
