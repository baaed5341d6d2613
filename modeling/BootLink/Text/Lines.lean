/-
# `BootLink.Text.Lines` — one line ending

Text is read with every line ending, of whatever convention, as a single line feed.
-/

namespace BootLink.Text

/-- Carriage returns, with or without a line feed after them, become line feeds. -/
def unifyLineEnds : List Char → List Char
  | '\r' :: '\n' :: rest => '\n' :: unifyLineEnds rest
  | '\r' :: rest => '\n' :: unifyLineEnds rest
  | c :: rest => c :: unifyLineEnds rest
  | [] => []

/-- No carriage return is left. -/
theorem carriageReturn_not_mem_unifyLineEnds (s : List Char) : '\r' ∉ unifyLineEnds s := by
  fun_induction unifyLineEnds s with
  | case1 rest ih => simp [ih]
  | case2 rest _ ih => simp [ih]
  | case3 c rest _ hc ih => exact fun m => (List.mem_cons.1 m).elim (fun e => hc e.symm) ih
  | case4 => simp

/-- A text without carriage returns stays as it is. -/
theorem unifyLineEnds_eq_self {s : List Char} (h : '\r' ∉ s) : unifyLineEnds s = s := by
  fun_induction unifyLineEnds s with
  | case1 | case2 => simp at h
  | case3 c rest _ _ ih => rw [ih fun m => h (List.mem_cons_of_mem _ m)]
  | case4 => rfl

end BootLink.Text
