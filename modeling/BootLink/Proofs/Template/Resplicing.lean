/-
# `BootLink.Proofs.Template.Resplicing` — bytecode in place of bytecode

What is spliced is a template again, with the same frame, so it may be spliced again.  For every
template `t` that takes bytecode at all, and bytes `b₁` and `b₂`,

    splice t b₁ = .ok t₁  →  splice t₁ b₂ = splice t b₂          (the last splice wins)
    splice t b₁ = .ok t'  →  splice t b₂ = .ok t'  →  b₁ = b₂    (and the text tells which it was)

The invariant is the frame: any text without a colon may be put between the markers, and no place is
made, lost or moved by it (`Framed.fill`).  So it is kept by one splice (`exists_framed_of_splice`),
and from that a whole sequence of splices comes out as its last (`foldlM_splice`).
-/
import BootLink.Proofs.Template.Markers

namespace BootLink

namespace Template

open Text

variable {template before inside after : List Char} {blob : List UInt8}

/-! ## The frame -/

theorem occurrences_startMarker_frame (before inside after : List Char) :
    occurrences startMarker.toList
        (before ++ startMarker.toList ++ inside ++ endMarker.toList ++ after) =
      occurrences startMarker.toList before + 1 + occurrences startMarker.toList inside +
        occurrences startMarker.toList after := by
  rw [occurrences_startMarker_append, occurrences_append_self closedBy_startMarker]

theorem occurrences_endMarker_frame (before inside after : List Char) :
    occurrences endMarker.toList
        (before ++ startMarker.toList ++ inside ++ endMarker.toList ++ after) =
      occurrences endMarker.toList before + occurrences endMarker.toList inside + 1 +
        occurrences endMarker.toList after := by
  rw [occurrences_append_self closedBy_endMarker, occurrences_endMarker_append]

/-- **Whatever holds no colon may stand between the markers.** -/
theorem Framed.fill (h : Framed template before inside after) {filling : List Char}
    (plain : ':' ∉ filling) :
    Framed (before ++ startMarker.toList ++ filling ++ endMarker.toList ++ after)
      before filling after := by
  have starts := once_iff.1 h.start_once
  have ends := once_iff.1 h.end_once
  rw [h.whole, occurrences_startMarker_frame] at starts
  rw [h.whole, occurrences_endMarker_frame] at ends
  refine ⟨rfl, once_iff.2 ?_, once_iff.2 ?_⟩
  · rw [occurrences_startMarker_frame, occurrences_of_not_mem closedBy_startMarker plain]
    omega
  · rw [occurrences_endMarker_frame, occurrences_of_not_mem closedBy_endMarker plain]
    omega

/-! ## One splice -/

/-- What a region holds between its markers. -/
def filling (blob : List UInt8) : List Char := "\n    ".toList ++ dataLine blob ++ "\n".toList

theorem colon_not_mem_filling (blob : List UInt8) : ':' ∉ filling blob := by
  intro h
  rcases List.mem_append.1 h with h | h
  · rcases List.mem_append.1 h with h | h
    · exact absurd h (by decide)
    · exact absurd (mem_dataLine h) (by decide)
  · exact absurd h (by decide)

theorem region_eq (blob : List UInt8) :
    region blob = startMarker.toList ++ filling blob ++ endMarker.toList := by
  rw [region, List.append_assoc startMarker.toList, List.append_assoc startMarker.toList]
  rfl

/-- **A splice keeps the frame.** -/
theorem exists_framed_of_splice {template text : String} (h : splice template blob = .ok text) :
    ∃ before inside after, Framed template.toList before inside after ∧
      Framed text.toList before (filling blob) after := by
  obtain ⟨-, before, inside, after, framed, spliced⟩ :=
    spliceChars_eq_ok_iff.1 (splice_eq_ok_iff.1 h)
  have filled := framed.fill (colon_not_mem_filling blob)
  refine ⟨before, inside, after, framed, ?_⟩
  rw [spliced, region_eq]
  simpa only [List.append_assoc] using filled

/-- **The last of two splices wins**, also where it fails. -/
theorem splice_splice {template text : String} (h : splice template blob = .ok text)
    (blob' : List UInt8) : splice text blob' = splice template blob' := by
  obtain ⟨before, inside, after, framed, framed'⟩ := exists_framed_of_splice h
  unfold splice
  rw [spliceChars_of_framed framed, spliceChars_of_framed framed']

/-- A template that takes some bytecode takes any. -/
theorem exists_splice {template : String} (takes : ∃ blob text, splice template blob = .ok text)
    (ne : blob ≠ []) : ∃ text, splice template blob = .ok text := by
  obtain ⟨_, _, h⟩ := takes
  obtain ⟨before, inside, after, framed, -⟩ := exists_framed_of_splice h
  refine ⟨String.ofList (before ++ region blob ++ after), splice_eq_ok_iff.2 ?_⟩
  rw [String.toList_ofList]
  exact spliceChars_eq_ok_iff.2 ⟨ne, before, inside, after, framed, rfl⟩

/-- **The text tells what was spliced.** -/
theorem eq_of_splice_eq {template text : String} {blob₁ blob₂ : List UInt8}
    (h₁ : splice template blob₁ = .ok text) (h₂ : splice template blob₂ = .ok text) :
    blob₁ = blob₂ := by
  have read₁ := (embeds_of_splice h₁).2.readBack
  have read₂ := (embeds_of_splice h₂).2.readBack
  exact Option.some.inj (read₁.symm.trans read₂)

/-! ## Many splices -/

/-- **Of a sequence of splices the last wins.** -/
theorem foldlM_splice {template : String} (takes : ∃ blob text, splice template blob = .ok text)
    {blobs : List (List UInt8)} (nonempty : ∀ blob ∈ blobs, blob ≠ []) (last : List UInt8) :
    (blobs ++ [last]).foldlM splice template = splice template last := by
  induction blobs generalizing template with
  | nil =>
    rw [List.nil_append, List.foldlM_cons]
    exact bind_pure _
  | cons blob blobs ih =>
    obtain ⟨text, spliced⟩ := exists_splice takes (nonempty blob List.mem_cons_self)
    have again : ∃ blob' text', splice text blob' = .ok text' :=
      ⟨blob, text, (splice_splice spliced blob).trans spliced⟩
    have rest := ih again fun blob' h => nonempty blob' (List.mem_cons_of_mem _ h)
    rw [List.cons_append, List.foldlM_cons, spliced]
    exact rest.trans (splice_splice spliced last)

/-- **Splicing may be repeated, and the last splice wins.**  A template that takes bytecode takes
any, and what comes out is a template with one pair of markers in order.  Splicing into it is
splicing into the first, and two texts spliced from it are the same only if the bytes are. -/
theorem splice_again {template : String} (takes : ∃ blob text, splice template blob = .ok text)
    {blob₁ blob₂ : List UInt8} (ne₁ : blob₁ ≠ []) (ne₂ : blob₂ ≠ []) :
    ∃ text₁ text₂, splice template blob₁ = .ok text₁ ∧ splice template blob₂ = .ok text₂ ∧
      (∃ before inside after, Framed text₁.toList before inside after) ∧
      splice text₁ blob₂ = .ok text₂ ∧
      (text₁ = text₂ → blob₁ = blob₂) := by
  obtain ⟨text₁, spliced₁⟩ := exists_splice takes ne₁
  obtain ⟨text₂, spliced₂⟩ := exists_splice takes ne₂
  obtain ⟨before, -, after, -, framed⟩ := exists_framed_of_splice spliced₁
  refine ⟨text₁, text₂, spliced₁, spliced₂, ⟨before, _, after, framed⟩,
    (splice_splice spliced₁ blob₂).trans spliced₂, ?_⟩
  rintro rfl
  exact eq_of_splice_eq spliced₁ spliced₂

open Sample in
/-- The loader with two bytes takes one in their place, as if it had been empty. -/
theorem loader_takes_one_after_two :
    ∃ text, splice loader [0x52, 0x4D] = .ok text ∧
      splice text [0xF4] =
        .ok "load:\nbytecode_start:\n    db 0xf4\nbytecode_end:\n    hlt\n" ∧
      text ≠ "load:\nbytecode_start:\n    db 0xf4\nbytecode_end:\n    hlt\n" := by
  have alone : splice loader [0xF4] =
      .ok "load:\nbytecode_start:\n    db 0xf4\nbytecode_end:\n    hlt\n" :=
    splice_eq_ok_iff.2 (spliceChars_eq_ok_iff.2 ⟨by decide, _, _, _, framed_loader, by decide⟩)
  have two : ([0x52, 0x4D] : List UInt8) ≠ [] := by decide
  have one : ([0xF4] : List UInt8) ≠ [] := by decide
  obtain ⟨text, last, first, second, -, again, same⟩ := splice_again ⟨_, _, alone⟩ two one
  obtain rfl := Except.ok.inj (second.symm.trans alone)
  exact ⟨text, first, again, fun e => absurd (same e) (by decide)⟩

end Template

end BootLink
