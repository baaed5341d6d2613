/-
# `BootLink.Text.Search` — finding one text inside another

`occurrences` counts the places where a needle stands, `cut` splits a text around the first of them,
and `pieces` splits it at every place of one character. Nothing is lost: the parts, and what they
were split at, make up the text again.

Places may overlap, and they may reach from one part of a text into the next. Neither happens with a
needle whose last character stands nowhere else in it (`ClosedBy`): its places are counted part by
part, when the parts end with that character or do without it.
-/

namespace BootLink.Text

/-- How many suffixes of the text start with the needle. -/
def occurrences (needle : List Char) : List Char → Nat
  | [] => if needle.isEmpty then 1 else 0
  | c :: rest => (if needle.isPrefixOf (c :: rest) then 1 else 0) + occurrences needle rest

/-- What stands before and after the first place of the needle. -/
def cut (needle : List Char) : List Char → Option (List Char × List Char)
  | [] => if needle.isEmpty then some ([], []) else none
  | c :: rest =>
    if needle.isPrefixOf (c :: rest) then some ([], (c :: rest).drop needle.length)
    else (cut needle rest).map fun (before, after) => (c :: before, after)

/-- No occurrence is counted just where the needle is not in the text. -/
theorem occurrences_eq_zero_iff {needle : List Char} (s : List Char) :
    occurrences needle s = 0 ↔ ¬needle <:+: s := by
  induction s with
  | nil => by_cases h : needle = [] <;> simp [occurrences, h]
  | cons c rest ih =>
    rw [occurrences, List.infix_cons_iff, ← List.isPrefixOf_iff_prefix]
    by_cases h : needle.isPrefixOf (c :: rest) = true <;> simp [h, ih]

/-- Nothing is cut just where the needle is not in the text. -/
theorem cut_eq_none_iff {needle : List Char} (s : List Char) :
    cut needle s = none ↔ ¬needle <:+: s := by
  induction s with
  | nil => by_cases h : needle = [] <;> simp [cut, h]
  | cons c rest ih =>
    rw [cut, List.infix_cons_iff, ← List.isPrefixOf_iff_prefix]
    by_cases h : needle.isPrefixOf (c :: rest) = true <;> simp [h, ih]

/-- The two sides of a cut and the needle between them are the text. -/
theorem append_of_cut {needle : List Char} {s : List Char} :
    ∀ {before after : List Char}, cut needle s = some (before, after) →
      before ++ needle ++ after = s := by
  induction s with
  | nil =>
    intro before after h
    rw [cut] at h
    split at h
    · next e =>
      obtain ⟨rfl, rfl⟩ := Prod.mk.inj (Option.some.inj h)
      simpa using e
    · exact nomatch h
  | cons c rest ih =>
    intro before after h
    rw [cut] at h
    split at h
    · next e =>
      obtain ⟨rfl, rfl⟩ := Prod.mk.inj (Option.some.inj h)
      obtain ⟨tail, e⟩ := List.isPrefixOf_iff_prefix.1 e
      rw [← e, List.drop_left]
      rfl
    · obtain ⟨⟨before', _⟩, e, h⟩ := Option.map_eq_some_iff.1 h
      obtain ⟨rfl, rfl⟩ := Prod.mk.inj h
      rw [List.cons_append, List.cons_append, ih e]

theorem append_dropLast_prefix (before needle after : List Char) :
    before ++ needle.dropLast <+: before ++ needle ++ after := by
  rw [List.append_assoc]
  exact (List.prefix_append_right_inj before).2
    ((List.dropLast_prefix needle).trans (List.prefix_append needle after))

/-- **A text is cut at the first place of the needle**: in what stands before it there is none, not
even one that reaches into the place of the cut. -/
theorem cut_eq_some_iff {needle s before after : List Char} (ne : needle ≠ []) :
    cut needle s = some (before, after) ↔
      s = before ++ needle ++ after ∧ ¬needle <:+: before ++ needle.dropLast := by
  constructor
  · intro h
    refine ⟨(append_of_cut h).symm, ?_⟩
    induction s generalizing before with
    | nil => rw [cut, if_neg (by simpa using ne)] at h; exact nomatch h
    | cons c rest ih =>
      rw [cut] at h
      split at h
      · obtain ⟨rfl, rfl⟩ := Prod.mk.inj (Option.some.inj h)
        intro inside
        have short := inside.length_le
        rw [List.nil_append, List.length_dropLast] at short
        have := List.length_pos_iff.2 ne
        omega
      · next here =>
        obtain ⟨⟨before', after'⟩, cut', h⟩ := Option.map_eq_some_iff.1 h
        obtain ⟨rfl, rfl⟩ := Prod.mk.inj h
        rw [List.cons_append, List.infix_cons_iff]
        rintro (start | inside)
        · -- what is a prefix of so much of the text is one of the text
          have up_to := append_dropLast_prefix (c :: before') needle after'
          rw [List.cons_append, List.cons_append, List.cons_append, append_of_cut cut'] at up_to
          exact here (List.isPrefixOf_iff_prefix.2 (start.trans up_to))
        · exact ih cut' inside
  · rintro ⟨rfl, first⟩
    induction before with
    | nil =>
      obtain ⟨c, rest, rfl⟩ := List.exists_cons_of_ne_nil ne
      have here : (c :: rest).isPrefixOf (c :: (rest ++ after)) = true :=
        List.isPrefixOf_iff_prefix.2 (List.prefix_append (c :: rest) after)
      rw [List.nil_append, List.cons_append, cut, if_pos here, List.length_cons,
        List.drop_succ_cons, List.drop_left]
    | cons c before ih =>
      rw [List.cons_append, List.infix_cons_iff, not_or] at first
      have away : ¬needle.isPrefixOf (c :: (before ++ needle ++ after)) = true := by
        intro here
        -- the text up to the end of `needle.dropLast` is long enough to show the whole needle
        have up_to := append_dropLast_prefix (c :: before) needle after
        have long : needle.length ≤ (c :: (before ++ needle.dropLast)).length := by
          rw [List.length_cons, List.length_append, List.length_dropLast]
          omega
        have whole := List.isPrefixOf_iff_prefix.1 here
        exact first.1 (List.prefix_of_prefix_length_le whole up_to long)
      rw [List.cons_append, List.cons_append, cut, if_neg away, ih first.2]
      rfl

/-! ## Needles with a last character of their own -/

/-- The character ends the needle, and stands nowhere else in it. -/
def ClosedBy (c : Char) (needle : List Char) : Prop := ∃ stem, c ∉ stem ∧ needle = stem ++ [c]

theorem ClosedBy.ne_nil {c : Char} {needle : List Char} (h : ClosedBy c needle) : needle ≠ [] := by
  obtain ⟨stem, -, rfl⟩ := h
  simp

/-- One more character makes room for one more place, at the end. -/
theorem occurrences_snoc {needle : List Char} (ne : needle ≠ []) (s : List Char) (d : Char) :
    occurrences needle (s ++ [d]) =
      occurrences needle s + if needle <:+ s ++ [d] then 1 else 0 := by
  induction s with
  | nil =>
    have whole : needle <+: [d] ↔ needle <:+ [d] := by
      rw [List.prefix_cons_iff, List.suffix_cons_iff]
      simp [ne]
    simp [occurrences, whole, ne]
  | cons c s ih =>
    have starts : needle <+: c :: (s ++ [d]) ↔ needle = c :: (s ++ [d]) ∨ needle <+: c :: s := by
      rw [← List.cons_append, List.prefix_concat_iff]
    rw [List.cons_append, occurrences, occurrences, ih]
    simp only [List.isPrefixOf_iff_prefix, starts, List.suffix_cons_iff]
    by_cases whole : needle = c :: (s ++ [d])
    · -- what is the whole text is in no part of it
      have length : needle.length = s.length + 2 := by simp [whole]
      have before : ¬needle <+: c :: s := fun h => by
        have := h.length_le
        simp at this
        omega
      have behind : ¬needle <:+ s ++ [d] := fun h => by
        have := h.length_le
        simp at this
        omega
      rw [if_neg before, if_neg behind, if_pos (.inl whole), if_pos (.inl whole)]
      omega
    · simp only [whole, false_or]
      omega

section
variable {c : Char} {needle : List Char} (closed : ClosedBy c needle)
include closed

/-- Where the character does not stand, no place ends. -/
theorem occurrences_append_of_not_mem {tail : List Char} (h : c ∉ tail) (s : List Char) :
    occurrences needle (s ++ tail) = occurrences needle s := by
  induction tail generalizing s with
  | nil => rw [List.append_nil]
  | cons d tail ih =>
    rw [List.mem_cons, not_or] at h
    have ends : ¬needle <:+ s ++ [d] := by
      obtain ⟨stem, -, rfl⟩ := closed
      rintro ⟨before, whole⟩
      rw [← List.append_assoc] at whole
      exact h.1 (List.append_singleton_inj.1 whole).2
    rw [List.append_cons, ih h.2, occurrences_snoc closed.ne_nil, if_neg ends,
      Nat.add_zero]

/-- Nor does one start in such a text alone. -/
theorem occurrences_of_not_mem {s : List Char} (h : c ∉ s) : occurrences needle s = 0 := by
  have := occurrences_append_of_not_mem closed h []
  simpa [occurrences, closed.ne_nil] using this

/-- A place that starts before the character does not end behind it. -/
theorem ClosedBy.prefix_append_iff (s tail : List Char) :
    needle <+: s ++ [c] ++ tail ↔ needle <+: s ++ [c] := by
  refine ⟨fun h => ?_, fun h => h.trans (List.prefix_append _ _)⟩
  obtain ⟨stem, fresh, rfl⟩ := closed
  rcases List.prefix_or_prefix_of_prefix h (List.prefix_append (s ++ [c]) tail) with h | h
  · exact h
  · rcases List.prefix_concat_iff.1 h with whole | inside
    · exact ⟨[], by rw [List.append_nil, whole]⟩
    · exact absurd (inside.subset (by simp)) fresh

/-- **Behind the character the places are counted afresh.** -/
theorem occurrences_append (s tail : List Char) :
    occurrences needle (s ++ [c] ++ tail) =
      occurrences needle (s ++ [c]) + occurrences needle tail := by
  induction s with
  | nil =>
    have start := closed.prefix_append_iff [] tail
    simp only [List.nil_append, List.singleton_append] at start
    simp [occurrences, start, closed.ne_nil]
  | cons d s ih =>
    have start := closed.prefix_append_iff (d :: s) tail
    simp only [List.cons_append] at start ih ⊢
    simp only [occurrences, List.isPrefixOf_iff_prefix, start, ih]
    omega

/-- A text with such an end has the places of the text before it, and perhaps one at its end. -/
theorem occurrences_append_closed {other : List Char} (h : ClosedBy c other) (s tail : List Char) :
    occurrences needle (s ++ other ++ tail) =
      occurrences needle s + (if needle <:+ s ++ other then 1 else 0) +
        occurrences needle tail := by
  obtain ⟨stem, fresh, rfl⟩ := h
  rw [← List.append_assoc, occurrences_append closed, occurrences_snoc closed.ne_nil,
    occurrences_append_of_not_mem closed fresh]

theorem occurrences_append_self (s tail : List Char) :
    occurrences needle (s ++ needle ++ tail) =
      occurrences needle s + 1 + occurrences needle tail := by
  rw [occurrences_append_closed closed closed, if_pos (List.suffix_append s needle)]

/-- **Another text with such an end holds no place**, and none reaches into it. -/
theorem occurrences_append_other {other : List Char} (h : ClosedBy c other)
    (longer : ¬other <:+ needle) (shorter : ¬needle <:+ other) (s tail : List Char) :
    occurrences needle (s ++ other ++ tail) = occurrences needle s + occurrences needle tail := by
  have ends : ¬needle <:+ s ++ other := fun ends =>
    (List.suffix_or_suffix_of_suffix ends (List.suffix_append s other)).elim shorter longer
  rw [occurrences_append_closed closed h, if_neg ends, Nat.add_zero]

/-- To count from left to right, each time behind the place found before, is to count the places. -/
theorem occurrences_of_cut {s before after : List Char} (h : cut needle s = some (before, after)) :
    occurrences needle s = 1 + occurrences needle after := by
  obtain ⟨rfl, first⟩ := (cut_eq_some_iff closed.ne_nil).1 h
  have none : occurrences needle before = 0 :=
    (occurrences_eq_zero_iff before).2 fun h => first (h.trans (List.prefix_append _ _).isInfix)
  rw [occurrences_append_self closed, none, Nat.zero_add]

end

/-! ## Pieces -/

/-- The pieces of a text between the places of one character, empty pieces included. -/
def pieces (sep : Char) : List Char → List (List Char)
  | [] => [[]]
  | c :: rest =>
    if c = sep then [] :: pieces sep rest
    else match pieces sep rest with
      | [] => [[c]]
      | piece :: more => (c :: piece) :: more

theorem pieces_ne_nil (sep : Char) (s : List Char) : pieces sep s ≠ [] := by
  cases s with
  | nil => simp [pieces]
  | cons c rest =>
    rw [pieces]
    split
    · simp
    · split <;> simp

/-- No piece holds the character. -/
theorem not_mem_of_mem_pieces {sep : Char} {s piece : List Char} (h : piece ∈ pieces sep s) :
    sep ∉ piece := by
  induction s generalizing piece with
  | nil => simp_all [pieces]
  | cons c rest ih =>
    rw [pieces] at h
    split at h
    · rcases List.mem_cons.1 h with rfl | h
      · exact List.not_mem_nil
      · exact ih h
    · next hc =>
      split at h
      · next e => exact absurd e (pieces_ne_nil sep rest)
      · next first more e =>
        rcases List.mem_cons.1 h with rfl | h
        · intro m
          rcases List.mem_cons.1 m with rfl | m
          · exact hc rfl
          · exact ih (e ▸ List.mem_cons_self ..) m
        · exact ih (e ▸ List.mem_cons_of_mem _ h)

theorem pieces_of_not_mem {sep : Char} {s : List Char} (h : sep ∉ s) : pieces sep s = [s] := by
  induction s with
  | nil => rfl
  | cons c rest ih =>
    rw [List.mem_cons, not_or] at h
    rw [pieces, if_neg fun e => h.1 e.symm, ih h.2]

/-- Up to the first place of the character is one piece. -/
theorem pieces_append_cons {sep : Char} {s : List Char} (h : sep ∉ s) (rest : List Char) :
    pieces sep (s ++ sep :: rest) = s :: pieces sep rest := by
  induction s with
  | nil => rw [List.nil_append, pieces, if_pos rfl]
  | cons c s ih =>
    rw [List.mem_cons, not_or] at h
    rw [List.cons_append, pieces, if_neg fun e => h.1 e.symm, ih h.2]

/-- What holds no such character only makes the last piece longer. -/
theorem exists_pieces_append (sep : Char) (s : List Char) :
    ∃ front last, ∀ t, sep ∉ t → pieces sep (s ++ t) = front ++ [last ++ t] := by
  induction s with
  | nil => exact ⟨[], [], fun t h => pieces_of_not_mem h⟩
  | cons c rest ih =>
    obtain ⟨front, last, ih⟩ := ih
    by_cases hc : c = sep
    · refine ⟨[] :: front, last, fun t h => ?_⟩
      rw [List.cons_append, pieces, if_pos hc, ih t h, List.cons_append]
    · cases front with
      | nil =>
        refine ⟨[], c :: last, fun t h => ?_⟩
        rw [List.cons_append, pieces, if_neg hc, ih t h]
        rfl
      | cons first front =>
        refine ⟨(c :: first) :: front, last, fun t h => ?_⟩
        rw [List.cons_append, pieces, if_neg hc, ih t h]
        rfl

/-- Texts without the character are the pieces of what they are joined to by it. -/
theorem pieces_intercalate {sep : Char} :
    ∀ {texts : List (List Char)}, texts ≠ [] → (∀ s ∈ texts, sep ∉ s) →
      pieces sep ([sep].intercalate texts) = texts
  | [], ne, _ => absurd rfl ne
  | [s], _, h => by
    rw [List.intercalate_singleton]
    exact pieces_of_not_mem (h s (List.mem_singleton_self s))
  | s :: t :: more, _, h => by
    rw [List.intercalate_cons_cons, List.append_assoc, List.singleton_append,
      pieces_append_cons (h s List.mem_cons_self),
      pieces_intercalate (List.cons_ne_nil t more) fun u hu => h u (List.mem_cons_of_mem s hu)]

end BootLink.Text
