/-
# `BootLink.Text.Quoted` — a text between quotes, on one line

Messages show a foreign text between quotes so that its ends and its control characters can be
seen. The delimiter is the single quote, unless the text holds a single quote and no double one.
The backslash, the delimiter, tab, line feed and carriage return have escapes of two characters;
any other character that is not printable is written by its code point.  So all of what is written
can be seen (`isPrintable_of_mem_quoted`).
-/
import BootLink.Text.Hex
import BootLink.Text.Printable

namespace BootLink.Text.Quoted

/-- The double quote only where it saves an escape. -/
def delimiter (s : List Char) : Char :=
  if s.contains '\'' && !s.contains '"' then '"' else '\''

/-- The escape of a character by its code point, in the shortest of three widths. -/
def codePoint (n : Nat) : List Char :=
  if n < 0x100 then ['\\', 'x'] ++ hexDigits 2 n
  else if n < 0x10000 then ['\\', 'u'] ++ hexDigits 4 n
  else ['\\', 'U'] ++ hexDigits 8 n

/-- One character, written between two `quote`s. -/
def encodeChar (quote c : Char) : List Char :=
  if c = quote ∨ c = '\\' then ['\\', c]
  else if c = '\t' then ['\\', 't']
  else if c = '\n' then ['\\', 'n']
  else if c = '\r' then ['\\', 'r']
  else if isPrintable c then [c]
  else codePoint c.toNat

/-- The text with its delimiters. -/
def encode (s : List Char) : List Char :=
  let quote := delimiter s
  quote :: s.flatMap (encodeChar quote) ++ [quote]

/-! ## What can be seen -/

theorem isPrintable_of_mem_hexDigits {width n : Nat} {c : Char} (h : c ∈ hexDigits width n) :
    isPrintable c = true := by
  have digit : ∀ i < 16, 0x20 ≤ (Nat.digitChar i).toNat ∧ (Nat.digitChar i).toNat < 0x7f := by
    decide
  induction width generalizing n with
  | zero => exact nomatch h
  | succ width ih =>
    rw [hexDigits, List.mem_append, List.mem_singleton] at h
    rcases h with h | rfl
    · exact ih h
    · obtain ⟨low, high⟩ := digit (n % 16) (Nat.mod_lt _ (by decide))
      exact isPrintable_of_ascii low high

theorem isPrintable_of_mem_backslash {letter c : Char} (hl : isPrintable letter = true)
    (h : c ∈ ['\\', letter]) : isPrintable c = true := by
  rcases List.mem_cons.1 h with rfl | h
  · exact isPrintable_of_ascii (by decide) (by decide)
  · exact List.mem_singleton.1 h ▸ hl

theorem isPrintable_of_mem_codePoint {n : Nat} {c : Char} (h : c ∈ codePoint n) :
    isPrintable c = true := by
  have written (letter : Char) (width : Nat) (hl : isPrintable letter = true)
      (h : c ∈ ['\\', letter] ++ hexDigits width n) : isPrintable c = true := by
    rcases List.mem_append.1 h with h | h
    · exact isPrintable_of_mem_backslash hl h
    · exact isPrintable_of_mem_hexDigits h
  unfold codePoint at h
  split at h
  · exact written 'x' 2 (isPrintable_of_ascii (by decide) (by decide)) h
  · split at h
    · exact written 'u' 4 (isPrintable_of_ascii (by decide) (by decide)) h
    · exact written 'U' 8 (isPrintable_of_ascii (by decide) (by decide)) h

theorem isPrintable_of_mem_encodeChar {quote c d : Char} (hq : isPrintable quote = true)
    (h : d ∈ encodeChar quote c) : isPrintable d = true := by
  unfold encodeChar at h
  split at h
  · next special =>
    refine isPrintable_of_mem_backslash ?_ h
    rcases special with rfl | rfl
    · exact hq
    · exact isPrintable_of_ascii (by decide) (by decide)
  split at h
  · exact isPrintable_of_mem_backslash (isPrintable_of_ascii (by decide) (by decide)) h
  split at h
  · exact isPrintable_of_mem_backslash (isPrintable_of_ascii (by decide) (by decide)) h
  split at h
  · exact isPrintable_of_mem_backslash (isPrintable_of_ascii (by decide) (by decide)) h
  split at h
  · next shown => exact List.mem_singleton.1 h ▸ shown
  · exact isPrintable_of_mem_codePoint h

/-- What is between quotes can be seen: none of its characters is hidden. -/
theorem isPrintable_of_mem_encode {s : List Char} {c : Char} (h : c ∈ encode s) :
    isPrintable c = true := by
  have quote : isPrintable (delimiter s) = true := by
    unfold delimiter
    split <;> exact isPrintable_of_ascii (by decide) (by decide)
  unfold encode at h
  rcases List.mem_append.1 h with h | h
  · rcases List.mem_cons.1 h with rfl | h
    · exact quote
    · obtain ⟨d, -, h⟩ := List.mem_flatMap.1 h
      exact isPrintable_of_mem_encodeChar quote h
  · exact List.mem_singleton.1 h ▸ quote

end BootLink.Text.Quoted

namespace BootLink.Text

/-- A text between quotes. -/
def quoted (s : String) : String := String.ofList (Quoted.encode s.toList)

/-- A text between quotes can be seen. -/
theorem isPrintable_of_mem_quoted {s : String} {c : Char} (h : c ∈ (quoted s).toList) :
    isPrintable c = true := by
  rw [quoted, String.toList_ofList] at h
  exact Quoted.isPrintable_of_mem_encode h

/-- A list of texts, each between quotes, in brackets. -/
def quotedList (xs : List String) : String :=
  "[" ++ ", ".intercalate (xs.map quoted) ++ "]"

end BootLink.Text
