/-
# `BootLink.Decimal.Shortest` — the fewest digits that read back

Among the decimals that read back as a given double, one with the fewest digits is shown, and of
those the nearest. For each count of digits the two neighbours of the value on that decimal grid
are tried, so the first count with a hit wins. `Style` holds what is a matter of taste: which
exponents are written out in full, and the texts of the two values that are no numbers.
-/
import BootLink.Decimal.Nearest

namespace BootLink.Decimal

/-- `digits · 10^exponent`. -/
structure Scaled where
  digits : Nat
  exponent : Int
  deriving DecidableEq, Repr

/-- Numerator and denominator of `m · b^q`. -/
def fraction (m b : Nat) (q : Int) : Nat × Nat :=
  if q < 0 then (m, b.pow q.natAbs) else (m * b.pow q.natAbs, 1)

/-- The exponent of the greatest power of ten that is at most `num / den`. Below one it is searched
for among the exponents that a double can have. -/
def floorLog10 (num den : Nat) : Int :=
  if den ≤ num then ((Nat.toDigits 10 (num / den)).length : Int) - 1
  else match (List.range 400).find? fun j => den ≤ num * Nat.pow 10 j with
    | some j => -(j : Int)
    | none => -400

/-- Whether a decimal reads back as the double of these bits. -/
def Scaled.readsBack (bits : Nat) (d : Scaled) : Bool :=
  let (num, den) := fraction d.digits 10 d.exponent
  nearestBits num den == bits

/-- The better of the two neighbours of `num / den` on the grid of `10^exponent`, if one reads
back. -/
def neighbour? (bits num den : Nat) (exponent : Int) : Option Scaled :=
  let (top, bottom) := if exponent < 0 then (num * Nat.pow 10 exponent.natAbs, den)
    else (num, den * Nat.pow 10 exponent.natAbs)
  let near := roundDiv top bottom
  let low := top / bottom
  let far := if near = low then low + 1 else low
  [Scaled.mk near exponent, Scaled.mk far exponent].find? (·.readsBack bits)

/-- The shortest decimal of a positive double. Seventeen digits always suffice. -/
def shortest (bits : Nat) : Scaled :=
  let (m, q) := ofBits bits
  let (num, den) := fraction m 2 q
  let top := floorLog10 num den
  ((List.range 17).findSome? fun (n : Nat) => neighbour? bits num den (top - n)).getD ⟨0, 0⟩

/-- How a number is laid out. -/
structure Style where
  /-- Numbers below ten to this power are written with an exponent. -/
  leastInFull : Int
  /-- Numbers of ten to this power and above are written with an exponent. -/
  leastBeyond : Int
  infinite : String
  undefined : String

/-- Digits with a point after the first `point` of them, and at least one digit on each side. -/
def inFull (digits : List Char) (point : Int) : List Char :=
  if point ≤ 0 then
    ['0', '.'] ++ List.replicate point.natAbs '0' ++ digits
  else
    let whole := digits.take point.toNat
    let rest := digits.drop point.toNat
    whole ++ List.replicate (point.toNat - digits.length) '0' ++ '.' ::
      (if rest.isEmpty then ['0'] else rest)

/-- An exponent has a sign and at least two digits. -/
def exponentText (e : Int) : List Char :=
  let digits := Nat.toDigits 10 e.natAbs
  ['e', if e < 0 then '-' else '+'] ++ List.replicate (2 - digits.length) '0' ++ digits

/-- One digit, the others after a point, and the exponent. -/
def withExponent (digits : List Char) (e : Int) : List Char :=
  digits.take 1 ++ (if digits.length ≤ 1 then [] else '.' :: digits.drop 1) ++ exponentText e

/-- The digits of a decimal without the zeros at their end. -/
def Scaled.significant (d : Scaled) : List Char :=
  ((Nat.toDigits 10 d.digits).reverse.dropWhile (· = '0')).reverse

/-- The layout of a positive decimal. -/
def Scaled.text (style : Style) (d : Scaled) : List Char :=
  let point : Int := (Nat.toDigits 10 d.digits).length + d.exponent
  if style.leastInFull < point ∧ point ≤ style.leastBeyond then inFull d.significant point
  else withExponent d.significant (point - 1)

/-- The text of a double, given by its bits. -/
def text (style : Style) (all : Nat) : String :=
  let bits := all % Nat.pow 2 63
  let sign := if Nat.pow 2 63 ≤ all then ['-'] else []
  if bits > infinityBits then style.undefined
  else if bits = infinityBits then String.ofList sign ++ style.infinite
  else if bits = 0 then String.ofList (sign ++ ['0', '.', '0'])
  else String.ofList (sign ++ (shortest bits).text style)

end BootLink.Decimal
