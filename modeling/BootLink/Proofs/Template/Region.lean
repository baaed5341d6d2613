/-
# `BootLink.Proofs.Template.Region` — bytecode inside the boot loader, read back

    spliceChars_eq_ok     what a template looks like that takes bytecode, and what becomes of it
    bytesOf?              reads a data line as an assembler does
    embedded?             reads the bytes between the markers of a text

The markers are found by their text alone, so nothing that stands before the region, and nothing
that is written into it, may be taken for one.  Before it there is none because the text was cut at
the first place of the start marker, and no place reaches into the marker itself
(`Text.cut_eq_some_iff`).  Inside it there is none because an end marker holds a colon and a data
line does not (`mem_dataLine`).  So `embedded?` finds the line that was written, whatever the
template holds, and reads the bytes that were given (`embedded?_region`).
-/
import BootLink.Template

namespace BootLink.Template

open BootLink.Text

/-! ## Splicing -/

/-- **The templates that take bytecode.**  Each marker stands in the text once, the start before the
end.  All that is between them gives way to the data line, and nothing else is touched. -/
theorem spliceChars_eq_ok {template text : List Char} {blob : List UInt8}
    (h : spliceChars template blob = .ok text) :
    blob ≠ [] ∧ occurrences startMarker.toList template = 1 ∧
      occurrences endMarker.toList template = 1 ∧
      ∃ before inside after,
        template = before ++ startMarker.toList ++ inside ++ endMarker.toList ++ after ∧
        ¬startMarker.toList <:+: before ++ startMarker.toList.dropLast ∧
        text = before ++ region blob ++ after := by
  unfold spliceChars at h
  dsimp only at h
  split at h
  · exact nomatch h
  · next there =>
    split at h
    · exact nomatch h
    · next once =>
      split at h
      · exact nomatch h
      · next before after found =>
        split at h
        · exact nomatch h
        · next nonempty =>
          obtain ⟨⟨before, rest⟩, cut_start, found⟩ := Option.bind_eq_some_iff.1 found
          obtain ⟨⟨inside, after⟩, cut_end, found⟩ := Option.map_eq_some_iff.1 found
          obtain ⟨rfl, rfl⟩ := Prod.mk.inj found
          obtain ⟨whole, first⟩ := (cut_eq_some_iff (by decide)).1 cut_start
          obtain rfl := append_of_cut cut_end
          refine ⟨by simpa using nonempty, by omega, by omega, before, inside, after, ?_, first,
            (Except.ok.inj h).symm⟩
          simpa only [List.append_assoc] using whole

theorem hexByte_eq (b : UInt8) :
    hexByte b = [Nat.digitChar (b.toNat / 16 % 16), Nat.digitChar (b.toNat % 16)] := rfl

/-! ## What is in a data line -/

/-- What data lines are made of. -/
def lineAlphabet : List Char := "db x,0123456789abcdef".toList

theorem digitChar_mem_alphabet : ∀ i < 16, Nat.digitChar i ∈ lineAlphabet := by decide

theorem mem_alphabet_of_byteLiteral {b : UInt8} {c : Char} (h : c ∈ byteLiteral b) :
    c ∈ lineAlphabet := by
  rw [byteLiteral, hexByte_eq] at h
  simp only [List.mem_cons, List.not_mem_nil, or_false] at h
  rcases h with rfl | rfl | rfl | rfl
  · decide
  · decide
  · exact digitChar_mem_alphabet _ (Nat.mod_lt _ (by decide))
  · exact digitChar_mem_alphabet _ (Nat.mod_lt _ (by decide))

theorem mem_intercalate {sep : List Char} {texts : List (List Char)} {c : Char}
    (h : c ∈ sep.intercalate texts) : c ∈ sep ∨ ∃ text ∈ texts, c ∈ text := by
  induction texts with
  | nil => exact nomatch h
  | cons first more ih =>
    cases more with
    | nil =>
      rw [List.intercalate_singleton] at h
      exact Or.inr ⟨first, List.mem_cons_self, h⟩
    | cons second more =>
      rw [List.intercalate_cons_cons, List.mem_append, List.mem_append] at h
      rcases h with (h | h) | h
      · exact Or.inr ⟨first, List.mem_cons_self, h⟩
      · exact Or.inl h
      · exact (ih h).imp_right fun ⟨text, ht, hc⟩ => ⟨text, List.mem_cons_of_mem first ht, hc⟩

theorem mem_dataLine {blob : List UInt8} {c : Char} (h : c ∈ dataLine blob) :
    c ∈ lineAlphabet := by
  rw [dataLine, List.mem_append] at h
  rcases h with h | h
  · have lead : "db ".toList ⊆ lineAlphabet := by decide
    exact lead h
  · rcases mem_intercalate h with h | ⟨text, ht, hc⟩
    · have between : ", ".toList ⊆ lineAlphabet := by decide
      exact between h
    · obtain ⟨b, _, rfl⟩ := List.mem_map.1 ht
      exact mem_alphabet_of_byteLiteral hc

/-- A data line is one line. -/
theorem lineFeed_not_mem_dataLine (blob : List UInt8) : '\n' ∉ dataLine blob :=
  fun h => absurd (mem_dataLine h) (by decide)

theorem comma_not_mem_byteLiteral (b : UInt8) : ',' ∉ byteLiteral b := by
  rw [byteLiteral, hexByte_eq]
  have digit : ∀ i < 16, Nat.digitChar i ≠ ',' := by decide
  simp only [List.mem_cons, List.not_mem_nil, or_false, not_or]
  exact ⟨by decide, by decide, (digit _ (Nat.mod_lt _ (by decide))).symm,
    (digit _ (Nat.mod_lt _ (by decide))).symm⟩

/-! ## Reading a data line -/

/-- Whether a character is a digit of base sixteen. -/
def isHexDigit (c : Char) : Bool := hexValue c < 16 && Nat.digitChar (hexValue c) = c

/-- The byte of an assembler's number with two digits. -/
def byteOf? : List Char → Option UInt8
  | ['0', 'x', high, low] =>
    if isHexDigit high && isHexDigit low then
      some (UInt8.ofNat (16 * hexValue high + hexValue low))
    else none
  | _ => none

/-- The bytes that a data line defines: numbers with commas between them. -/
def bytesOf? : List Char → Option (List UInt8)
  | 'd' :: 'b' :: ' ' :: numbers =>
    (pieces ',' numbers).mapM fun number => byteOf? (number.dropWhile (· = ' '))
  | _ => none

theorem isHexDigit_digitChar : ∀ i < 16, isHexDigit (Nat.digitChar i) = true := by decide

theorem byteOf?_byteLiteral (b : UInt8) : byteOf? (byteLiteral b) = some b := by
  have high : b.toNat / 16 % 16 < 16 := Nat.mod_lt _ (by decide)
  have low : b.toNat % 16 < 16 := Nat.mod_lt _ (by decide)
  have small := b.toNat_lt
  have whole : 16 * (b.toNat / 16 % 16) + b.toNat % 16 = b.toNat := by omega
  rw [byteLiteral, hexByte_eq, byteOf?, isHexDigit_digitChar _ high, isHexDigit_digitChar _ low,
    hexValue_digitChar _ high, hexValue_digitChar _ low, whole]
  simp

/-- Numbers with a comma and a space between them: each but the first has its own space. -/
theorem intercalate_comma_space (first : List Char) (more : List (List Char)) :
    (", ".toList).intercalate (first :: more) =
      [','].intercalate (first :: more.map (' ' :: ·)) := by
  induction more generalizing first with
  | nil => rfl
  | cons second more ih =>
    rw [List.intercalate_cons_cons, List.map_cons, List.intercalate_cons_cons, ih]
    cases more <;> simp [List.intercalate_cons_cons]

/-- **A data line defines the bytes that it was written for.** -/
theorem bytesOf?_dataLine {blob : List UInt8} (ne : blob ≠ []) :
    bytesOf? (dataLine blob) = some blob := by
  obtain ⟨b, rest, rfl⟩ := List.exists_cons_of_ne_nil ne
  have numbers : pieces ',' ((", ".toList).intercalate ((b :: rest).map byteLiteral)) =
      byteLiteral b :: (rest.map byteLiteral).map (' ' :: ·) := by
    rw [List.map_cons, intercalate_comma_space]
    refine pieces_intercalate (List.cons_ne_nil _ _) fun number h => ?_
    rcases List.mem_cons.1 h with rfl | h
    · exact comma_not_mem_byteLiteral b
    · obtain ⟨literal, hl, rfl⟩ := List.mem_map.1 h
      obtain ⟨b', _, rfl⟩ := List.mem_map.1 hl
      simpa using comma_not_mem_byteLiteral b'
  have read (b : UInt8) : byteOf? ((byteLiteral b).dropWhile (· = ' ')) = some b :=
    byteOf?_byteLiteral b
  have read_more : ((rest.map byteLiteral).map (' ' :: ·)).mapM
      (fun number => byteOf? (number.dropWhile (· = ' '))) = some rest := by
    clear ne numbers
    induction rest with
    | nil => rfl
    | cons b' rest ih =>
      have read_next : byteOf? ((' ' :: byteLiteral b').dropWhile (· = ' ')) = some b' := read b'
      rw [List.map_cons, List.map_cons, List.mapM_cons, read_next, ih]
      rfl
  show (pieces ',' ((", ".toList).intercalate ((b :: rest).map byteLiteral))).mapM _ = _
  rw [numbers, List.mapM_cons, read, read_more]
  rfl

/-! ## Reading a region -/

/-- The bytes that the text defines between its markers, if there is one line and it defines
bytes. -/
def embedded? (text : List Char) : Option (List UInt8) := do
  let (_, rest) ← cut startMarker.toList text
  let (inside, _) ← cut endMarker.toList rest
  match pieces '\n' inside with
  | [[], line, []] => bytesOf? (line.dropWhile (· = ' '))
  | _ => none

/-- **What was embedded is read back**, whatever stands around it. -/
theorem embedded?_region {before after : List Char} {blob : List UInt8} (ne : blob ≠ [])
    (first : ¬startMarker.toList <:+: before ++ startMarker.toList.dropLast) :
    embedded? (before ++ region blob ++ after) = some blob := by
  have inside_free : ¬endMarker.toList <:+:
      "\n    ".toList ++ dataLine blob ++ "\n".toList ++ endMarker.toList.dropLast := by
    -- the marker holds a colon
    intro h
    have colon : ':' ∈ endMarker.toList := by decide
    have h := h.subset colon
    simp only [List.mem_append] at h
    rcases h with ((h | h) | h) | h
    · exact absurd h (by decide)
    · exact absurd (mem_dataLine h) (by decide)
    · exact absurd h (by decide)
    · exact absurd h (by decide)
  have at_start : cut startMarker.toList (before ++ region blob ++ after) =
      some (before, "\n    ".toList ++ dataLine blob ++ "\n".toList ++ endMarker.toList ++ after) :=
    (cut_eq_some_iff (by decide)).2 ⟨by simp only [region, List.append_assoc], first⟩
  have at_end : cut endMarker.toList
      ("\n    ".toList ++ dataLine blob ++ "\n".toList ++ endMarker.toList ++ after) =
      some ("\n    ".toList ++ dataLine blob ++ "\n".toList, after) :=
    (cut_eq_some_iff (by decide)).2 ⟨rfl, inside_free⟩
  have line : pieces '\n' ("\n    ".toList ++ dataLine blob ++ "\n".toList) =
      [[], "    ".toList ++ dataLine blob, []] := by
    have no_feed : '\n' ∉ "    ".toList ++ dataLine blob := by
      rw [List.mem_append, not_or]
      exact ⟨by decide, lineFeed_not_mem_dataLine blob⟩
    show pieces '\n' ([] ++ '\n' :: ("    ".toList ++ dataLine blob ++ '\n' :: [])) = _
    rw [pieces_append_cons List.not_mem_nil, pieces_append_cons no_feed]
    rfl
  have shown : ("    ".toList ++ dataLine blob).dropWhile (· = ' ') = dataLine blob := rfl
  simp only [embedded?, Option.bind_eq_bind, at_start, at_end, Option.bind_some, line, shown,
    bytesOf?_dataLine ne]

/-! ## Embedding -/

/-- The text is the template with one data line between its markers, and the line defines the
bytes. -/
structure Embeds (template : List Char) (bytes : List UInt8) (text : List Char) : Prop where
  starts : occurrences startMarker.toList template = 1
  ends : occurrences endMarker.toList template = 1
  replaced : ∃ before inside after line,
    template = before ++ startMarker.toList ++ inside ++ endMarker.toList ++ after ∧
    text = before ++ startMarker.toList ++ ("\n    ".toList ++ line ++ "\n".toList) ++
      endMarker.toList ++ after ∧
    '\n' ∉ line ∧ bytesOf? line = some bytes
  readBack : embedded? text = some bytes

/-- **Splicing embeds.** -/
theorem embeds_of_spliceChars {template text : List Char} {blob : List UInt8}
    (h : spliceChars template blob = .ok text) : blob ≠ [] ∧ Embeds template blob text := by
  obtain ⟨ne, starts, ends, before, inside, after, whole, first, rfl⟩ := spliceChars_eq_ok h
  refine ⟨ne, starts, ends, ?_, embedded?_region ne first⟩
  refine ⟨before, inside, after, dataLine blob, whole, ?_, lineFeed_not_mem_dataLine blob,
    bytesOf?_dataLine ne⟩
  simp only [region, List.append_assoc]

/-- The same of texts. -/
theorem embeds_of_splice {template text : String} {blob : List UInt8}
    (h : splice template blob = .ok text) :
    blob ≠ [] ∧ Embeds template.toList blob text.toList := by
  unfold splice at h
  cases spliced : spliceChars template.toList blob with
  | error fault => rw [spliced] at h; exact nomatch h
  | ok chars =>
    rw [spliced] at h
    obtain rfl := Except.ok.inj h
    rw [String.toList_ofList]
    exact embeds_of_spliceChars spliced

end BootLink.Template
