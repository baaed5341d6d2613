/-
# `BootLink.Text.Hex` — numbers in base sixteen

Digits are lower case, the most significant one first, and their count is the caller's choice. Bytes
are written as two digits each, and `ofHex_flatMap_hexByte` says that they are read back as they
were.
-/

namespace BootLink.Text

/-- The last `width` hexadecimal digits of `n`. -/
def hexDigits : Nat → Nat → List Char
  | 0, _ => []
  | width + 1, n => hexDigits width (n / 16) ++ [Nat.digitChar (n % 16)]

/-- A byte as two digits. -/
def hexByte (b : UInt8) : List Char := hexDigits 2 b.toNat

/-- The value of a digit. -/
def hexValue (c : Char) : Nat := if c.isDigit then c.toNat - 48 else c.toNat - 87

/-- The bytes that pairs of digits stand for. -/
def ofHex : List Char → List UInt8
  | high :: low :: rest => UInt8.ofNat (16 * hexValue high + hexValue low) :: ofHex rest
  | _ => []

/-- A digit has the value that it was written for. -/
theorem hexValue_digitChar : ∀ i < 16, hexValue (Nat.digitChar i) = i := by
  decide

/-- Bytes are read back as they were written. -/
theorem ofHex_flatMap_hexByte (bytes : List UInt8) : ofHex (bytes.flatMap hexByte) = bytes := by
  induction bytes with
  | nil => rfl
  | cons b rest ih =>
    have digits : hexByte b =
        [Nat.digitChar (b.toNat / 16 % 16), Nat.digitChar (b.toNat % 16)] := rfl
    have high := hexValue_digitChar (b.toNat / 16 % 16) (Nat.mod_lt _ (by decide))
    have low := hexValue_digitChar (b.toNat % 16) (Nat.mod_lt _ (by decide))
    have small := b.toNat_lt
    have whole : 16 * (b.toNat / 16 % 16) + b.toNat % 16 = b.toNat := by omega
    simp [List.flatMap_cons, digits, ofHex, high, low, whole, ih]

/-- Digits of base sixteen differ for different values. -/
theorem digitChar_inj : ∀ i < 16, ∀ j < 16, Nat.digitChar i = Nat.digitChar j → i = j := by
  decide

/-- A byte is known by its two digits. -/
theorem hexByte_inj {a b : UInt8} : hexByte a = hexByte b ↔ a = b := by
  refine ⟨fun h => ?_, fun h => h ▸ rfl⟩
  have digits (c : UInt8) :
      hexByte c = [Nat.digitChar (c.toNat / 16 % 16), Nat.digitChar (c.toNat % 16)] := rfl
  rw [digits, digits] at h
  injection h with high low
  injection low with low _
  have high := digitChar_inj _ (Nat.mod_lt _ (by decide)) _ (Nat.mod_lt _ (by decide)) high
  have low := digitChar_inj _ (Nat.mod_lt _ (by decide)) _ (Nat.mod_lt _ (by decide)) low
  have ha := a.toNat_lt
  have hb := b.toNat_lt
  exact UInt8.toNat_inj.1 (by omega)

end BootLink.Text
