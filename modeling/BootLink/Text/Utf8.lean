/-
# `BootLink.Text.Utf8` — reading bytes as text

A text file is UTF-8. Where the bytes are not, `Fault` says which of them cannot be read and why:
the scan stops at the first byte that no continuation could save, and blames the bytes of the
character that was being read.
-/
import BootLink.Text.Hex

namespace BootLink.Text.Utf8

/-- Why bytes are no text. -/
inductive Reason
  | invalidStart
  | invalidContinuation
  | unexpectedEnd
  deriving DecidableEq, Repr

/-- The bytes that cannot be read: where they start, how many they are, and the first of them. -/
structure Fault where
  position : Nat
  length : Nat
  first : UInt8
  reason : Reason
  deriving DecidableEq, Repr

/-- The reason in words. -/
def Reason.message : Reason → String
  | .invalidStart => "invalid start byte"
  | .invalidContinuation => "invalid continuation byte"
  | .unexpectedEnd => "unexpected end of data"

/-- One byte is shown by its value, several by their range. -/
def Fault.message (f : Fault) : String :=
  let place :=
    if f.length = 1 then
      "byte 0x" ++ String.ofList (hexByte f.first) ++ " in position " ++ toString f.position
    else
      "bytes in position " ++ toString f.position ++ "-" ++ toString (f.position + f.length - 1)
  "'utf-8' codec can't decode " ++ place ++ ": " ++ f.reason.message

/-- A character in the middle of being read: its start and first byte, the bytes read so far, the
bytes still owed after the next one, and the limits of the next one. -/
structure Pending where
  start : Nat
  first : UInt8
  taken : Nat
  owed : Nat
  least : UInt8
  greatest : UInt8

/-- What a first byte asks for: nothing more, or a number of further bytes of which the next has
limits. Bytes that start no character ask for nothing sensible and are refused. -/
def afterFirst (position : Nat) (b : UInt8) : Except Fault (Option Pending) :=
  let more owed least greatest := .ok (some ⟨position, b, 1, owed, least, greatest⟩)
  if b < 0x80 then .ok none
  else if b < 0xC2 then .error ⟨position, 1, b, .invalidStart⟩
  else if b < 0xE0 then more 0 0x80 0xBF
  else if b = 0xE0 then more 1 0xA0 0xBF
  else if b = 0xED then more 1 0x80 0x9F
  else if b < 0xF0 then more 1 0x80 0xBF
  else if b = 0xF0 then more 2 0x90 0xBF
  else if b < 0xF4 then more 2 0x80 0xBF
  else if b = 0xF4 then more 2 0x80 0x8F
  else .error ⟨position, 1, b, .invalidStart⟩

/-- The next byte of a pending character. -/
def Pending.take (p : Pending) (b : UInt8) : Except Fault (Option Pending) :=
  if p.least ≤ b ∧ b ≤ p.greatest then
    match p.owed with
    | 0 => .ok none
    | owed + 1 => .ok (some ⟨p.start, p.first, p.taken + 1, owed, 0x80, 0xBF⟩)
  else .error ⟨p.start, p.taken, p.first, .invalidContinuation⟩

/-- The first fault of the bytes from `position` on. -/
def fault? (position : Nat) : Option Pending → List UInt8 → Option Fault
  | none, [] => none
  | some p, [] => some ⟨p.start, p.taken, p.first, .unexpectedEnd⟩
  | pending, b :: rest =>
    match pending.elim (afterFirst position b) (·.take b) with
    | .ok pending => fault? (position + 1) pending rest
    | .error fault => some fault

/-- The text of the bytes, or the first fault in them. -/
def decode (bytes : ByteArray) : Except Fault String :=
  match String.fromUTF8? bytes with
  | some s => .ok s
  | none => .error ((fault? 0 none bytes.data.toList).getD ⟨0, bytes.size, 0, .unexpectedEnd⟩)

/-- A text reads back as it was written. -/
theorem decode_toUTF8 (s : String) : decode s.toUTF8 = .ok s := by
  unfold decode String.fromUTF8?
  rw [String.toUTF8_eq_toByteArray, dif_pos s.isValidUTF8]
  rfl

end BootLink.Text.Utf8
