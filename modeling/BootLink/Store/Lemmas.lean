/-
# `BootLink.Store.Lemmas` — what writing and removing do to a store

A write puts one file at one location and leaves every other location as it was. What led to a
directory or file before leads there afterwards, so the file reads back as it was written. Removing
takes away what it is about and nothing else.

A write can also fail, and then it may have been begun (`writeOut_cases`).
-/
import BootLink.Store
import BootLink.Table.Lemmas

namespace BootLink

/-- No fault of a template is met in writing. -/
theorem WriteFault.failure_ne_template (met : WriteFault) (p : Path) (fault : TemplateFault)
    (file : Option Path) : met.failure p ≠ .template fault file := by
  cases met <;> exact nofun

namespace Store

@[simp]
theorem get?_root (s : Store) : s.get? [] = some .directory := rfl

theorem get?_set_self (s : Store) {l : Location} (n : Node) (h : l ≠ []) :
    (s.set l n).get? l = some n := by
  simp [get?, set, h, Table.get?_insert]

theorem get?_set_of_ne (s : Store) {l l' : Location} (n : Node) (h : l' ≠ l) :
    (s.set l n).get? l' = s.get? l' := by
  simp [get?, set, h, Table.get?_insert]

/-- Only the last step leads away from directories, so a file put where no directory is changes no
walk that came through. -/
theorem walk_set {s : Store} {l : Location} {n : Node} (h : s.get? l ≠ some .directory)
    {steps : List String} :
    ∀ {start goal : Location}, s.walk start steps = .ok goal →
      (s.set l n).walk start steps = .ok goal := by
  induction steps with
  | nil =>
    intro start goal came
    rw [walk] at came ⊢
    exact came
  | cons step rest ih =>
    intro start goal came
    rw [walk] at came
    split at came
    · exact nomatch came
    · exact nomatch came
    · next here =>
      have ne : start ≠ l := fun e => h (e ▸ here)
      have here : (s.set l n).get? start = some .directory := by rw [get?_set_of_ne s n ne, here]
      rw [walk, here]
      dsimp only
      split at came
      · next dot => rw [if_pos dot, ih came]
      · next dot =>
        rw [if_neg dot]
        split at came
        · next up => rw [if_pos up, ih came]
        · next up =>
          rw [if_neg up]
          split at came
          · exact nomatch came
          · next short => rw [if_neg short, ih came]

/-- A path leads where it led, whatever is put where no directory is. -/
theorem locate_set {s : Store} {l goal : Location} {n : Node} (h : s.get? l ≠ some .directory)
    {p : Path} (came : s.locate p = .ok goal) : (s.set l n).locate p = .ok goal := by
  rw [locate] at came ⊢
  split at came
  · exact nomatch came
  · next short => rw [if_neg short]; exact walk_set h came

/-- A write that succeeds went to a location that is no directory. -/
theorem write_eq_ok_iff {s t : Store} {p : Path} {content : ByteArray} :
    s.write p content = .ok t ↔
      ∃ l, s.locate p = .ok l ∧ s.get? l ≠ some .directory ∧ t = s.set l (.file content) := by
  cases e : s.locate p with
  | error c => simp [write, e, bind, Except.bind]
  | ok l =>
    by_cases d : s.get? l = some .directory
    · simp [write, e, d, bind, Except.bind]
    · have h : s.write p content = .ok (s.set l (.file content)) := by
        simp only [write, e, bind, Except.bind]
      rw [h]
      constructor
      · rintro ⟨⟩
        exact ⟨l, rfl, d, rfl⟩
      · rintro ⟨l', there, _, rfl⟩
        rw [Except.ok.inj there]

/-- A file reads back as it was written. -/
theorem read_of_write {s t : Store} {p : Path} {content : ByteArray}
    (h : s.write p content = .ok t) : t.read p = .ok content := by
  obtain ⟨l, there, free, rfl⟩ := write_eq_ok_iff.1 h
  have still : (s.set l (.file content)).locate p = .ok l := locate_set free there
  have ne : l ≠ [] := fun e => free (e ▸ get?_root s)
  simp only [read, still, bind, Except.bind, get?_set_self s _ ne]

/-- What stands where a write went. -/
theorem get?_of_write_self {s t : Store} {p : Path} {content : ByteArray} {l : Location}
    (h : s.write p content = .ok t) (there : s.locate p = .ok l) :
    t.get? l = some (.file content) := by
  obtain ⟨l', at_l', free, rfl⟩ := write_eq_ok_iff.1 h
  obtain rfl := Except.ok.inj (there.symm.trans at_l')
  exact get?_set_self s _ fun e => free (e ▸ get?_root s)

/-- A write changes no location but the one that its path leads to. -/
theorem get?_of_write {s t : Store} {p : Path} {content : ByteArray} {l : Location}
    (h : s.write p content = .ok t) (elsewhere : s.locate p ≠ .ok l) : t.get? l = s.get? l := by
  obtain ⟨_, there, _, rfl⟩ := write_eq_ok_iff.1 h
  exact get?_set_of_ne s _ fun e => elsewhere (e ▸ there)

/-! ## Writes that fail -/

/-- Whether a path can be written does not depend on what is written. -/
theorem write_eq_error {s : Store} {p : Path} {content : ByteArray} {c : SystemCondition}
    (h : s.write p content = .error c) (other : ByteArray) : s.write p other = .error c := by
  unfold write at h ⊢
  cases e : s.locate p with
  | error c' => rw [e] at h; exact h
  | ok l =>
    rw [e] at h
    simp only [bind, Except.bind] at h ⊢
    split at h
    · exact h
    · exact nomatch h

/-- A write was begun, met a fault, and has left the first bytes of its content. -/
def CutShort (s : Store) (p : Path) (content : ByteArray) (fault : WriteFault) (t : Store) : Prop :=
  ∃ kept, s.faultAt? p = some fault ∧ fault.kept? = some kept ∧
    s.write p (content.extract 0 kept) = .ok t

/-- **How a write ends.**  It is refused and nothing changes, or it is cut short by a fault, or all
of it is written. -/
theorem writeOut_cases (s : Store) (p : Path) (content : ByteArray) :
    (∃ e, s.writeOut p content = (.error e, s)) ∨
    (∃ fault t, s.CutShort p content fault t ∧
      s.writeOut p content = (.error (fault.failure p), t)) ∨
    ∃ t, s.write p content = .ok t ∧ s.writeOut p content = (.ok ⟨⟩, t) := by
  unfold writeOut
  cases written : s.write p content with
  | error c => exact .inl ⟨_, rfl⟩
  | ok t =>
    cases met : s.faultAt? p with
    | none => exact .inr (.inr ⟨t, rfl, rfl⟩)
    | some fault =>
      dsimp only
      cases opened : fault.kept? with
      | none => exact .inl ⟨_, rfl⟩
      | some kept =>
        cases part : s.write p (content.extract 0 kept) with
        | error c => exact nomatch (write_eq_error part content).symm.trans written
        | ok u =>
          refine .inr (.inl ⟨fault, u, ⟨kept, met, opened, part⟩, ?_⟩)
          simp only [writeUpTo, part]

/-- There is no place where a write fails. -/
def IsSound (s : Store) : Prop := ∀ l, s.fault? l = none

theorem IsSound.faultAt?_eq_none {s : Store} (sound : s.IsSound) (p : Path) :
    s.faultAt? p = none := by
  unfold faultAt?
  split
  · exact sound _
  · rfl

theorem writeOut_of_write {s t : Store} {p : Path} {content : ByteArray}
    (sound : s.faultAt? p = none) (h : s.write p content = .ok t) :
    s.writeOut p content = (.ok ⟨⟩, t) := by
  rw [writeOut, h, sound]

/-- A write that was begun and cut short. -/
theorem CutShort.writeOut {s t : Store} {p : Path} {content : ByteArray} {fault : WriteFault}
    (h : s.CutShort p content fault t) : s.writeOut p content = (.error (fault.failure p), t) := by
  obtain ⟨kept, met, opened, part⟩ := h
  have whole : ∃ u, s.write p content = .ok u := by
    cases written : s.write p content with
    | ok u => exact ⟨u, rfl⟩
    | error c => exact nomatch (write_eq_error written _).symm.trans part
  obtain ⟨u, written⟩ := whole
  rw [Store.writeOut, written, met]
  simp only [opened, writeUpTo, part]

/-! ## Removal -/

theorem get?_erase_self (s : Store) {l : Location} (h : l ≠ []) : (s.erase l).get? l = none := by
  simp [get?, erase, h]

theorem get?_erase_of_ne (s : Store) {l l' : Location} (h : l' ≠ l) :
    (s.erase l).get? l' = s.get? l' := by
  simp [get?, erase, h]

/-- Clearing a location leaves it and all that is not below it. -/
theorem get?_clear (s : Store) (l l' : Location) :
    (s.clear l).get? l' = if l <+: l' ∧ l' ≠ l then none else s.get? l' := by
  by_cases root : l' = []
  · subst root
    have : ¬(l <+: [] ∧ ([] : Location) ≠ l) := fun h => h.2 (List.prefix_nil.1 h.1).symm
    rw [if_neg this]
    rfl
  · have keep : (!l.isPrefixOf l' || l' == l) = true ↔ ¬(l <+: l' ∧ l' ≠ l) := by
      rw [← List.isPrefixOf_iff_prefix]
      by_cases h : l.isPrefixOf l' = true <;> simp [h]
    simp only [get?, clear, root, if_false, Table.get?_filterKeys]
    by_cases h : l <+: l' ∧ l' ≠ l
    · rw [if_neg fun k => keep.1 k h, if_pos h]
    · rw [if_pos (keep.2 h), if_neg h]

end Store

end BootLink
