/-
# `BootLink.Decimal.Literal` — what counts as a number of seconds

A number is an optional sign, then either digits with an optional point and an optional exponent,
or the word for infinity or for an undefined value in any case. Blanks around it are dropped, a
single underscore may stand between two digits, and digits of every script count.
-/
import BootLink.Decimal.Nearest
import BootLink.Text.Digit

namespace BootLink.Decimal

/-- A number as it is written: its digits times a power of ten, or one of the two words. -/
inductive Literal
  | finite (negative : Bool) (digits : Nat) (exponent : Int)
  | infinite (negative : Bool)
  | undefined
  deriving DecidableEq, Repr

namespace Literal

/-- Blanks and digits of every script in their ASCII form. A character that is neither and not
ASCII cannot be part of a number, and the question mark keeps it so. -/
def simplifyChar (c : Char) : Char :=
  if c.toNat < 127 then c
  else if Text.isBlank c then ' '
  else ((Text.digitValue? c).map Text.digitChar).getD '?'

/-- Texts that are ASCII throughout stay as they are. -/
def simplify (s : List Char) : List Char :=
  if s.all (·.toNat < 128) then s else s.map simplifyChar

/-- The blanks that may stand around a number. -/
def isPadding (c : Char) : Bool := c = ' ' || (0x9 ≤ c.toNat && c.toNat ≤ 0xd)

/-- A text without the blanks around it. -/
def trim (s : List Char) : List Char :=
  ((s.dropWhile isPadding).reverse.dropWhile isPadding).reverse

/-- Drops the underscores, if each stands between two digits. -/
def dropUnderscores? : Option Char → List Char → Option (List Char)
  | last, [] => if last = some '_' then none else some []
  | last, c :: rest =>
    if c = '_' then
      if last.any Char.isDigit then dropUnderscores? (some c) rest else none
    else if last = some '_' ∧ !c.isDigit then none
    else (dropUnderscores? (some c) rest).map (c :: ·)

/-- The sign in front of a number, and the rest. -/
def takeSign : List Char → Bool × List Char
  | '-' :: rest => (true, rest)
  | '+' :: rest => (false, rest)
  | s => (false, s)

/-- The value of ASCII digits. -/
def value (digits : List Char) : Nat :=
  digits.foldl (fun n c => 10 * n + (c.toNat - '0'.toNat)) 0

/-- The exponent after the digits: absent, or a mark and an integer that ends the text. -/
def exponent? : List Char → Option Int
  | [] => some 0
  | mark :: rest =>
    if mark = 'e' ∨ mark = 'E' then
      let (negative, digits) := takeSign rest
      if digits.isEmpty || !digits.all Char.isDigit then none
      else some (if negative then -(value digits) else value digits)
    else none

/-- Digits with an optional point among or around them, then an optional exponent. -/
def finite? (negative : Bool) (s : List Char) : Option Literal :=
  let whole := s.takeWhile Char.isDigit
  let afterWhole := s.dropWhile Char.isDigit
  let (fraction, rest) := match afterWhole with
    | '.' :: more => (more.takeWhile Char.isDigit, more.dropWhile Char.isDigit)
    | _ => ([], afterWhole)
  if whole.isEmpty && fraction.isEmpty then none
  else (exponent? rest).map fun e =>
    finite negative (value (whole ++ fraction)) (e - fraction.length)

/-- The number that a text stands for, if it stands for one. -/
def ofText? (text : String) : Option Literal := do
  let s ← dropUnderscores? none (trim (simplify text.toList))
  let (negative, body) := takeSign s
  let word := String.ofList (body.map Char.toLower)
  if word = "inf" ∨ word = "infinity" then some (infinite negative)
  else if word = "nan" then some undefined
  else finite? negative body

/-- The bits of a positive decimal. Beyond the exponents at which every double has overflowed or
vanished the power of ten is not computed. -/
def magnitudeBits (digits : Nat) (exponent : Int) : Nat :=
  let size : Int := (Nat.toDigits 10 digits).length
  if digits = 0 then 0
  else if size + exponent > 400 then infinityBits
  else if size + exponent < -400 then 0
  else if exponent < 0 then nearestBits digits (Nat.pow 10 exponent.natAbs)
  else nearestBits (digits * Nat.pow 10 exponent.natAbs) 1

/-- The sign bit. -/
def signBits (negative : Bool) : Nat := if negative then Nat.pow 2 63 else 0

/-- The bits of the double nearest to a literal. -/
def bits : Literal → Nat
  | finite negative digits exponent => signBits negative + magnitudeBits digits exponent
  | infinite negative => signBits negative + infinityBits
  | undefined => undefinedBits

end Literal

end BootLink.Decimal
