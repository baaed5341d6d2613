/-
# `BootLink.Text.Control` — control sequences of a terminal

A terminal takes its orders from sequences within a text: an escape and an opening bracket,
parameters made of digits, semicolons and question marks, and a letter that says what to do. Where a
text does not go to a terminal they are left out. A sequence without its letter is text like any
other.
-/

namespace BootLink.Text

/-- What the parameters of a control sequence are made of. -/
def isParameter (c : Char) : Bool := c.isDigit || c = ';' || c = '?'

/-- The text after the control sequence that it starts with, if it starts with one. -/
def afterControl? : List Char → Option (List Char)
  | '\x1b' :: '[' :: rest =>
    match rest.dropWhile isParameter with
    | c :: after => if c.isAlpha then some after else none
    | [] => none
  | _ => none

/-- A control sequence starts with an escape, and what follows it is the rest of the text. -/
theorem append_of_afterControl? {s after : List Char} (h : afterControl? s = some after) :
    ∃ sequence, '\x1b' :: sequence ++ after = s := by
  unfold afterControl? at h
  split at h
  · next rest =>
    split at h
    · next c after' e =>
      split at h
      · obtain rfl := Option.some.inj h
        refine ⟨'[' :: (rest.takeWhile isParameter ++ [c]), ?_⟩
        have split := List.takeWhile_append_dropWhile (p := isParameter) (l := rest)
        rw [e] at split
        simpa using split
      · exact nomatch h
    · exact nomatch h
  · exact nomatch h

/-- What follows a control sequence is shorter. -/
theorem length_lt_of_afterControl? {s after : List Char} (h : afterControl? s = some after) :
    after.length < s.length := by
  obtain ⟨sequence, rfl⟩ := append_of_afterControl? h
  simp only [List.cons_append, List.length_cons, List.length_append]
  omega

/-- The text without its control sequences. One that only comes about by leaving out another stays
where it is. -/
def withoutControls : List Char → List Char
  | [] => []
  | c :: rest =>
    match h : afterControl? (c :: rest) with
    | some after =>
      have := length_lt_of_afterControl? h
      withoutControls after
    | none => c :: withoutControls rest
termination_by s => s.length
decreasing_by
  · exact this
  · exact Nat.lt_succ_self _

/-- The characters that stay keep their order, and none is put in. -/
theorem withoutControls_sublist (s : List Char) : (withoutControls s).Sublist s := by
  fun_induction withoutControls s with
  | case1 => exact .slnil
  | case2 c rest after h _ ih =>
    obtain ⟨sequence, e⟩ := append_of_afterControl? h
    exact e ▸ ih.trans (List.sublist_append_right ..)
  | case3 c rest h ih => exact ih.cons_cons c

/-- A text without an escape stays as it is. -/
theorem withoutControls_eq_self {s : List Char} (h : '\x1b' ∉ s) : withoutControls s = s := by
  fun_induction withoutControls s with
  | case1 => rfl
  | case2 c rest after e _ ih =>
    obtain ⟨sequence, e⟩ := append_of_afterControl? e
    exact absurd (e ▸ List.mem_append_left _ (List.mem_cons_self ..)) h
  | case3 c rest _ ih => rw [ih fun m => h (List.mem_cons_of_mem _ m)]

end BootLink.Text
