/-
# `BootLink.Proofs.Template.Markers` — which templates take bytecode, and what the others are told

For every template `t` and bytes `b`,

    splice t b = .ok text      ↔  b ≠ [] ∧ ∃ u m w, Framed t u m w ∧
                                    text = u ++ start ++ "\n    " ++ dataLine b ++ "\n" ++ end ++ w
    splice t b = .error fault  ↔  Rejected t b fault

where `Framed t u m w` is that `t` is `u ++ start ++ m ++ end ++ w` and holds each marker once, and
`Rejected` lists the faults with what each of them tells of the template.  Both right-hand sides
speak of the places in the text, and not of how they are searched for.

The program counts the places, and then cuts the text.  The proof is that the two agree:

    encard_places          counting counts the places
    Once.cut_eq            the only place is where the text is cut
    occurrences_endMarker_append
                           no place of one marker reaches into the other

For the last a marker needs its colon, which is at its end and nowhere else (`Text.ClosedBy`).  So
places do not overlap either, and it is the same to count them one behind the other
(`Text.occurrences_of_cut`).
-/
import BootLink.Proofs.Template.Region
import Mathlib.Data.Set.Card

namespace BootLink

/-! ## Places -/

namespace Text

variable {needle s : List Char}

/-- The places of a needle in a text, each given by what stands before it. -/
def places (needle s : List Char) : Set (List Char) := {before | before ++ needle <+: s}

/-- The needle stands in the text, and at one place only. -/
def Once (needle s : List Char) : Prop := ∃! before, before ∈ places needle s

theorem mem_places {before : List Char} :
    before ∈ places needle s ↔ ∃ after, s = before ++ needle ++ after :=
  ⟨fun ⟨after, h⟩ => ⟨after, h.symm⟩, fun ⟨after, h⟩ => ⟨after, h.symm⟩⟩

theorem infix_iff_exists_place : needle <:+: s ↔ ∃ before, before ∈ places needle s := Iff.rfl

theorem places_cons (c : Char) (rest : List Char) :
    places needle (c :: rest) =
      (if needle <+: c :: rest then {[]} else ∅) ∪ (c :: ·) '' places needle rest := by
  ext before
  cases before with
  | nil => by_cases h : needle <+: c :: rest <;> simp [places, h]
  | cons d before =>
    by_cases h : needle <+: c :: rest <;>
      simp [places, h, List.cons_prefix_cons, eq_comm (a := d), and_comm]

/-- **Counting counts the places.** -/
theorem encard_places (needle s : List Char) : (places needle s).encard = occurrences needle s := by
  induction s with
  | nil =>
    have whole : places needle [] = if needle = [] then {[]} else ∅ := by
      ext before
      by_cases h : needle = [] <;> simp [places, h]
    rw [whole]
    by_cases h : needle = [] <;> simp [occurrences, h]
  | cons c rest ih =>
    have apart : Disjoint (if needle <+: c :: rest then {[]} else ∅)
        ((c :: ·) '' places needle rest) := by
      split <;> simp
    rw [places_cons, Set.encard_union_eq apart, List.cons_injective.encard_image, ih, occurrences]
    by_cases h : needle <+: c :: rest <;> simp [h]

theorem once_iff : Once needle s ↔ occurrences needle s = 1 := by
  rw [Once, ← Set.singleton_iff_unique_mem, ← Set.encard_eq_one, encard_places]
  norm_cast

/-- The only place is the first. -/
theorem Once.cut_eq {before after : List Char} (h : Once needle s) (ne : needle ≠ [])
    (whole : s = before ++ needle ++ after) : cut needle s = some (before, after) := by
  refine (cut_eq_some_iff ne).2 ⟨whole, fun ⟨earlier, tail, inside⟩ => ?_⟩
  have part : earlier ++ needle <+: before ++ needle.dropLast := ⟨tail, inside⟩
  have all := append_dropLast_prefix before needle after
  have place : earlier ∈ places needle s := whole ▸ part.trans all
  obtain rfl := h.unique place (mem_places.2 ⟨after, whole⟩)
  -- the place is too short for the needle
  have length := congrArg List.length inside
  simp only [List.length_append, List.length_dropLast] at length
  have := List.length_pos_iff.2 ne
  omega

/-- Behind some of the text there is at most the one place. -/
theorem Once.behind {front : List Char} (h : Once needle (front ++ s)) (there : needle <:+: s) :
    Once needle s := by
  have later {before : List Char} (hb : before ∈ places needle s) :
      front ++ before ∈ places needle (front ++ s) := by
    show front ++ before ++ needle <+: front ++ s
    rw [List.append_assoc]
    exact (List.prefix_append_right_inj front).2 hb
  obtain ⟨before, hb⟩ := infix_iff_exists_place.1 there
  exact ⟨before, hb, fun before' hb' => List.append_cancel_left (h.unique (later hb') (later hb))⟩

end Text

/-! ## The two markers -/

namespace Template

open Text

theorem closedBy_startMarker : ClosedBy ':' startMarker.toList :=
  ⟨"bytecode_start".toList, by decide, by decide⟩

theorem closedBy_endMarker : ClosedBy ':' endMarker.toList :=
  ⟨"bytecode_end".toList, by decide, by decide⟩

/-- A start marker holds no place of the other, and none reaches into it. -/
theorem occurrences_endMarker_append (s tail : List Char) :
    occurrences endMarker.toList (s ++ startMarker.toList ++ tail) =
      occurrences endMarker.toList s + occurrences endMarker.toList tail :=
  occurrences_append_other closedBy_endMarker closedBy_startMarker (by decide) (by decide) s tail

/-- Nor does an end marker. -/
theorem occurrences_startMarker_append (s tail : List Char) :
    occurrences startMarker.toList (s ++ endMarker.toList ++ tail) =
      occurrences startMarker.toList s + occurrences startMarker.toList tail :=
  occurrences_append_other closedBy_startMarker closedBy_endMarker (by decide) (by decide) s tail

/-! ## The templates -/

/-- The template holds each marker once, and this is what stands before, between and behind them. -/
structure Framed (template before inside after : List Char) : Prop where
  whole : template = before ++ startMarker.toList ++ inside ++ endMarker.toList ++ after
  start_once : Once startMarker.toList template
  end_once : Once endMarker.toList template

/-- What is wrong with the template or with the bytes, by what is told of it. -/
inductive Rejected (template : List Char) (blob : List UInt8) : TemplateFault → Prop
  /-- A marker is not there. -/
  | missing (gone : ¬startMarker.toList <:+: template ∨ ¬endMarker.toList <:+: template) :
      Rejected template blob .markerMissing
  /-- Both are there, and one of them at several places.  The numbers of places are told. -/
  | repeated {starts ends : Nat} (start : startMarker.toList <:+: template)
      (stop : endMarker.toList <:+: template)
      (several : ¬Once startMarker.toList template ∨ ¬Once endMarker.toList template)
      (count_starts : (places startMarker.toList template).encard = starts)
      (count_ends : (places endMarker.toList template).encard = ends) :
      Rejected template blob (.markerRepeated starts ends)
  /-- Each is there once, and the end comes first. -/
  | reversed {before inside after : List Char} (start_once : Once startMarker.toList template)
      (end_once : Once endMarker.toList template)
      (whole : template = before ++ endMarker.toList ++ inside ++ startMarker.toList ++ after) :
      Rejected template blob .markersReversed
  /-- The template is in order, but there is nothing to put into it. -/
  | empty {before inside after : List Char} (framed : Framed template before inside after)
      (nothing : blob = []) : Rejected template blob .emptyBytecode

variable {template before inside after : List Char} {blob : List UInt8}

theorem Framed.cut_start (h : Framed template before inside after) :
    cut startMarker.toList template = some (before, inside ++ endMarker.toList ++ after) :=
  h.start_once.cut_eq (by decide) (by rw [h.whole]; simp only [List.append_assoc])

theorem Framed.cut_end (h : Framed template before inside after) :
    cut endMarker.toList (inside ++ endMarker.toList ++ after) = some (inside, after) := by
  have once : Once endMarker.toList
      (before ++ startMarker.toList ++ (inside ++ endMarker.toList ++ after)) := by
    have := h.whole ▸ h.end_once
    simpa only [List.append_assoc] using this
  exact (once.behind ⟨inside, after, rfl⟩).cut_eq (by decide) rfl

/-- A template is framed in one way only. -/
theorem Framed.unique {before' inside' after' : List Char} (h : Framed template before inside after)
    (h' : Framed template before' inside' after') :
    before = before' ∧ inside = inside' ∧ after = after' := by
  have starts := Option.some.inj (h.cut_start.symm.trans h'.cut_start)
  obtain ⟨rfl, rest⟩ := Prod.mk.inj starts
  have ends := Option.some.inj (h.cut_end.symm.trans ((congrArg _ rest).trans h'.cut_end))
  exact ⟨rfl, Prod.mk.inj ends⟩

theorem spliceChars_of_framed (h : Framed template before inside after) :
    spliceChars template blob =
      if blob.isEmpty then .error .emptyBytecode else .ok (before ++ region blob ++ after) := by
  unfold spliceChars
  dsimp only
  rw [once_iff.1 h.start_once, once_iff.1 h.end_once, if_neg (by decide), if_neg (by decide),
    h.cut_start, Option.bind_some, h.cut_end]
  rfl

theorem spliceChars_of_rejected {fault : TemplateFault} (h : Rejected template blob fault) :
    spliceChars template blob = .error fault := by
  cases h with
  | missing gone =>
    unfold spliceChars
    dsimp only
    rw [if_pos (gone.imp (occurrences_eq_zero_iff _).2 (occurrences_eq_zero_iff _).2)]
  | repeated start stop several count_starts count_ends =>
    rw [encard_places, Nat.cast_inj] at count_starts count_ends
    subst count_starts count_ends
    have start := mt (occurrences_eq_zero_iff template).1 (not_not.2 start)
    have stop := mt (occurrences_eq_zero_iff template).1 (not_not.2 stop)
    rw [once_iff, once_iff] at several
    unfold spliceChars
    dsimp only
    rw [if_neg (by omega), if_pos (by omega)]
  | @reversed before inside after start_once end_once whole =>
    have at_start : cut startMarker.toList template =
        some (before ++ endMarker.toList ++ inside, after) :=
      start_once.cut_eq (by decide) whole
    have behind : cut endMarker.toList after = none := by
      have count := once_iff.1 end_once
      rw [whole, occurrences_endMarker_append, occurrences_append_self closedBy_endMarker] at count
      exact (cut_eq_none_iff after).2 ((occurrences_eq_zero_iff after).1 (by omega))
    unfold spliceChars
    dsimp only
    rw [once_iff.1 start_once, once_iff.1 end_once, if_neg (by decide), if_neg (by decide),
      at_start, Option.bind_some, behind]
    rfl
  | empty framed nothing => rw [spliceChars_of_framed framed, if_pos (by rw [nothing]; rfl)]

/-- **There is no third kind of template.**  Where each marker stands once, the end either comes
behind the start or before it. -/
theorem exists_framed_or_rejected (template : List Char) (blob : List UInt8) :
    (∃ before inside after, Framed template before inside after) ∨
      ∃ fault, Rejected template blob fault := by
  by_cases there : startMarker.toList <:+: template ∧ endMarker.toList <:+: template
  · by_cases once : Once startMarker.toList template ∧ Once endMarker.toList template
    · obtain ⟨⟨before, rest, whole⟩, -⟩ := there
      by_cases behind : endMarker.toList <:+: rest
      · obtain ⟨inside, after, rfl⟩ := behind
        refine .inl ⟨before, inside, after, ?_, once.1, once.2⟩
        simp only [← whole, List.append_assoc]
      · have count := once_iff.1 once.2
        rw [← whole, occurrences_endMarker_append, (occurrences_eq_zero_iff rest).2 behind] at count
        have earlier : endMarker.toList <:+: before := by
          by_contra none
          rw [(occurrences_eq_zero_iff before).2 none] at count
          exact absurd count (by decide)
        obtain ⟨first, middle, rfl⟩ := earlier
        exact .inr ⟨_, .reversed once.1 once.2 whole.symm⟩
    · exact .inr ⟨_, .repeated there.1 there.2 (not_and_or.1 once) (encard_places _ _)
        (encard_places _ _)⟩
  · exact .inr ⟨_, .missing (not_and_or.1 there)⟩

theorem spliceChars_eq_ok_iff {text : List Char} :
    spliceChars template blob = .ok text ↔
      blob ≠ [] ∧ ∃ before inside after, Framed template before inside after ∧
        text = before ++ region blob ++ after := by
  constructor
  · intro h
    rcases exists_framed_or_rejected template blob with ⟨before, inside, after, framed⟩ | ⟨_, fault⟩
    · rw [spliceChars_of_framed framed] at h
      split at h
      · exact nomatch h
      · next nonempty =>
        exact ⟨by simpa using nonempty, before, inside, after, framed, (Except.ok.inj h).symm⟩
    · exact nomatch (spliceChars_of_rejected fault).symm.trans h
  · rintro ⟨nonempty, before, inside, after, framed, rfl⟩
    rw [spliceChars_of_framed framed, if_neg (by simpa using nonempty)]

theorem spliceChars_eq_error_iff {fault : TemplateFault} :
    spliceChars template blob = .error fault ↔ Rejected template blob fault := by
  refine ⟨fun h => ?_, spliceChars_of_rejected⟩
  rcases exists_framed_or_rejected template blob with ⟨_, _, _, framed⟩ | ⟨_, rejected⟩
  · rw [spliceChars_of_framed framed] at h
    split at h
    · next nothing =>
      obtain rfl := Except.error.inj h
      exact .empty framed (List.isEmpty_iff.1 nothing)
    · exact nomatch h
  · obtain rfl := Except.error.inj ((spliceChars_of_rejected rejected).symm.trans h)
    exact rejected

theorem splice_eq_ok_iff {template text : String} :
    splice template blob = .ok text ↔ spliceChars template.toList blob = .ok text.toList := by
  unfold splice
  cases spliceChars template.toList blob with
  | error fault => exact ⟨nofun, nofun⟩
  | ok chars =>
    constructor
    · intro h
      obtain rfl := Except.ok.inj h
      rw [String.toList_ofList]
    · intro h
      obtain rfl := Except.ok.inj h
      show Except.ok (String.ofList _) = _
      rw [String.ofList_toList]

theorem splice_eq_error_iff {template : String} {fault : TemplateFault} :
    splice template blob = .error fault ↔ spliceChars template.toList blob = .error fault := by
  unfold splice
  cases spliceChars template.toList blob with
  | error fault' =>
    exact ⟨fun h => congrArg _ (Except.error.inj h), fun h => congrArg _ (Except.error.inj h)⟩
  | ok chars => exact ⟨nofun, nofun⟩

/-- **What becomes of a template.**  It takes bytecode just if there is some and the template holds
each marker once, the start before the end.  There is one way to see it so, and what is between the
markers then gives way to the data line; all else is kept.  In every other case a fault is told, and
which one says what is wrong (`Rejected`): a marker that is missing, one that is repeated, a pair in
the wrong order, no bytecode. -/
theorem splice_outcomes (template : String) (blob : List UInt8) :
    (∀ text, splice template blob = .ok text ↔
      blob ≠ [] ∧ ∃ before inside after, Framed template.toList before inside after ∧
        text.toList = before ++ startMarker.toList ++ "\n    ".toList ++ dataLine blob ++
          "\n".toList ++ endMarker.toList ++ after) ∧
    (∀ before inside after before' inside' after',
      Framed template.toList before inside after → Framed template.toList before' inside' after' →
      before = before' ∧ inside = inside' ∧ after = after') ∧
    (∀ fault, splice template blob = .error fault ↔ Rejected template.toList blob fault) := by
  refine ⟨fun text => ?_, fun _ _ _ _ _ _ h h' => h.unique h', fun fault => ?_⟩
  · rw [splice_eq_ok_iff, spliceChars_eq_ok_iff]
    simp only [region, List.append_assoc]
  · rw [splice_eq_error_iff, spliceChars_eq_error_iff]

end Template

namespace Sample

/-- A boot loader that shows where its bytecode goes. -/
def loader : String := "load:\nbytecode_start:\n    ; program\nbytecode_end:\n    hlt\n"

/-- The same with its markers exchanged. -/
def backwards : String := "load:\nbytecode_end:\n    ; program\nbytecode_start:\n    hlt\n"

theorem framed_loader : Template.Framed loader.toList "load:\n".toList "\n    ; program\n".toList
    "\n    hlt\n".toList :=
  ⟨by decide, Text.once_iff.2 (by decide), Text.once_iff.2 (by decide)⟩

end Sample

namespace Template

open Sample

/-- The loader takes two bytes, keeps what is around the region, and is told of when it is given
none; the other is told of whatever it is given. -/
theorem loader_takes_two_bytes :
    splice loader [0x52, 0x4D] =
        .ok "load:\nbytecode_start:\n    db 0x52, 0x4d\nbytecode_end:\n    hlt\n" ∧
      splice loader [] = .error .emptyBytecode ∧
      splice backwards [0x52, 0x4D] = .error .markersReversed ∧
      (∀ before inside after, Framed loader.toList before inside after →
        after = "\n    hlt\n".toList) := by
  obtain ⟨taken, unique, _⟩ := splice_outcomes loader [0x52, 0x4D]
  obtain ⟨_, _, told⟩ := splice_outcomes loader []
  obtain ⟨_, _, reversed⟩ := splice_outcomes backwards [0x52, 0x4D]
  refine ⟨(taken _).2 ⟨by decide, _, _, _, framed_loader, by decide⟩,
    (told _).2 (.empty framed_loader rfl), (reversed _).2 ?_, fun before inside after h => ?_⟩
  · exact @Rejected.reversed _ _ "load:\n".toList "\n    ; program\n".toList "\n    hlt\n".toList
      (Text.once_iff.2 (by decide)) (Text.once_iff.2 (by decide)) (by decide)
  · exact (unique _ _ _ _ _ _ h framed_loader).2.2

end Template

end BootLink
