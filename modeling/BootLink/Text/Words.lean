/-
# `BootLink.Text.Words` — lines of words

Small tables are written as text, one entry a line, with blanks between the words. The first word of
a line is what the entry is about. No word is empty or has a blank in it.
-/
import BootLink.Text.Search

namespace BootLink.Text

/-- The words of a text: what stands between blanks. -/
def words (text : List Char) : List (List Char) := (pieces ' ' text).filter (!·.isEmpty)

/-- A word is not empty and has no blank. -/
theorem ne_nil_of_mem_words {text word : List Char} (h : word ∈ words text) :
    word ≠ [] ∧ ' ' ∉ word := by
  obtain ⟨piece, filled⟩ := List.mem_filter.1 h
  exact ⟨fun e => by simp [e] at filled, not_mem_of_mem_pieces piece⟩

/-- The lines of a text that have words, each as its first word and those after it. -/
def entries (text : String) : List (String × List String) :=
  (pieces '\n' text.toList).filterMap fun line =>
    match (words line).map String.ofList with
    | first :: rest => some (first, rest)
    | [] => none

end BootLink.Text
