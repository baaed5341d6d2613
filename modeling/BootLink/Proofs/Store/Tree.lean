/-
# `BootLink.Proofs.Store.Tree` — walks see directories only

A path is walked through directories, and only its last step may lead to a file or to nothing.  So
two stores with the same directories, `SameTree s t`, agree on where a path leads
(`SameTree.locate_eq_ok_iff`), whatever files they hold; where it leads nowhere they may give
different reasons, since a file in the way is not the same as nothing.  A write puts a file where
no directory is and keeps the tree (`sameTree_of_write`).

What a path reads then depends on one location.  `AgreeAt p s t` says that the two stores agree
there, and `read_eq_ok_iff` that the path reads the same.

Siblings, that is paths that differ in their last part alone, are walked alike up to it
(`locate_sibling`), so they never lead to one location.
-/
import BootLink.Path.Lemmas
import BootLink.Store.Lemmas

namespace BootLink.Store

/-- The directories are the same, and so is the one that relative paths start from.  The same writes
fail. -/
structure SameTree (s t : Store) : Prop where
  here : s.here = t.here
  faults : s.fault? = t.fault?
  directory (l : Location) : s.get? l = some .directory ↔ t.get? l = some .directory

variable {s t u v : Store} {p q : Path} {l start goal : Location} {steps : List String}
  {content : ByteArray}

theorem SameTree.refl (s : Store) : SameTree s s := ⟨rfl, rfl, fun _ => Iff.rfl⟩

theorem SameTree.symm (h : SameTree s t) : SameTree t s :=
  ⟨h.here.symm, h.faults.symm, fun l => (h.directory l).symm⟩

theorem SameTree.trans (h : SameTree s t) (h' : SameTree t u) : SameTree s u :=
  ⟨h.here.trans h'.here, h.faults.trans h'.faults,
    fun l => (h.directory l).trans (h'.directory l)⟩

theorem SameTree.isSound (h : SameTree s t) (sound : s.IsSound) : t.IsSound := by
  intro l
  rw [← h.faults]
  exact sound l

/-! ## Walks -/

/-- Where one step leads from a directory, whatever else there is. -/
def stepFrom (l : Location) (step : String) : Except SystemCondition Location :=
  if step = "." then .ok l
  else if step = ".." then .ok l.dropLast
  else if nameLimit < step.utf8ByteSize then .error .nameTooLong
  else .ok (l ++ [step])

theorem walk_of_directory {step : String} (here : s.get? start = some .directory) :
    s.walk start (step :: steps) = (stepFrom start step).bind fun l => s.walk l steps := by
  rw [walk, here, stepFrom]
  dsimp only
  split
  · rfl
  · split
    · rfl
    · split
      · rfl
      · rfl

theorem walk_of_not_directory (away : s.get? start ≠ some .directory) (step : String)
    (steps : List String) :
    s.walk start (step :: steps) = .error .missing ∨
      s.walk start (step :: steps) = .error .notDirectory := by
  rw [walk]
  split
  · exact Or.inl rfl
  · exact Or.inr rfl
  · next here => exact absurd here away

/-- What a walk ends with, unless it is stopped by something that is no directory.  More directories
do not change it. -/
theorem walk_of_directories
    (kept : ∀ l, s.get? l = some .directory → t.get? l = some .directory)
    {r : Except SystemCondition Location}
    (going : r ≠ .error .missing ∧ r ≠ .error .notDirectory) :
    ∀ {steps : List String} {start : Location}, s.walk start steps = r → t.walk start steps = r
  | [], _, came => came
  | step :: rest, start, came => by
      by_cases here : s.get? start = some .directory
      · rw [walk_of_directory here] at came
        rw [walk_of_directory (kept start here)]
        cases e : stepFrom start step with
        | error c => rw [e] at came; exact came
        | ok l => rw [e] at came; exact walk_of_directories kept going came
      · rcases walk_of_not_directory here step rest with stopped | stopped
        · exact absurd (came.symm.trans stopped) going.1
        · exact absurd (came.symm.trans stopped) going.2

/-- Where a path leads, it leads with more directories as well. -/
theorem locate_of_directories (here : s.here = t.here)
    (kept : ∀ l, s.get? l = some .directory → t.get? l = some .directory)
    (led : s.locate p = .ok l) : t.locate p = .ok l := by
  unfold locate at led ⊢
  rw [← here]
  split at led
  · exact nomatch led
  · next short =>
      rw [if_neg short]
      exact walk_of_directories kept (by simp) led

theorem SameTree.locate_eq_iff (h : SameTree s t) {r : Except SystemCondition Location}
    (going : r ≠ .error .missing ∧ r ≠ .error .notDirectory) :
    s.locate p = r ↔ t.locate p = r := by
  unfold locate
  rw [h.here]
  split
  · exact Iff.rfl
  · exact ⟨walk_of_directories (fun l => (h.directory l).1) going,
      walk_of_directories (fun l => (h.directory l).2) going⟩

/-- **Where a path leads, the directories say.** -/
theorem SameTree.locate_eq_ok_iff (h : SameTree s t) :
    s.locate p = .ok l ↔ t.locate p = .ok l :=
  h.locate_eq_iff (by simp)

theorem SameTree.locate_tooLong_iff (h : SameTree s t) :
    s.locate p = .error .nameTooLong ↔ t.locate p = .error .nameTooLong :=
  h.locate_eq_iff (by simp)

theorem SameTree.isDirectory_eq (h : SameTree s t) (p : Path) :
    s.isDirectory p = t.isDirectory p := by
  have iff (u : Store) : u.isDirectory p = true ↔
      ∃ l, u.locate p = .ok l ∧ u.get? l = some .directory := by
    unfold isDirectory node?
    cases u.locate p with
    | error e => simp
    | ok l =>
        simp only [Except.ok.injEq, exists_eq_left']
        cases u.get? l with
        | none => simp
        | some n => cases n <;> simp
  rw [Bool.eq_iff_iff, iff, iff]
  simp only [h.locate_eq_ok_iff, h.directory]

/-! ## Files -/

theorem sameTree_set (free : s.get? l ≠ some .directory) :
    SameTree s (s.set l (.file content)) where
  here := rfl
  faults := rfl
  directory l' := by
    have ne : l ≠ [] := fun e => free (e ▸ get?_root s)
    by_cases h : l' = l
    · subst h
      rw [get?_set_self s _ ne]
      simpa using free
    · rw [get?_set_of_ne s _ h]

/-- **A write keeps the tree.** -/
theorem sameTree_of_write (h : s.write p content = .ok t) : SameTree s t := by
  obtain ⟨l, _, free, rfl⟩ := write_eq_ok_iff.1 h
  exact sameTree_set free

/-- Where the directories are the same, a file can be written where it could. -/
theorem SameTree.exists_write (h : SameTree s t) (led : s.locate p = .ok l)
    (free : s.get? l ≠ some .directory) (content : ByteArray) : ∃ u, t.write p content = .ok u :=
  ⟨_, write_eq_ok_iff.2 ⟨l, h.locate_eq_ok_iff.1 led, fun there => free ((h.directory l).2 there),
    rfl⟩⟩

theorem read_eq_ok_iff :
    s.read p = .ok content ↔ ∃ l, s.locate p = .ok l ∧ s.get? l = some (.file content) := by
  unfold read
  cases s.locate p with
  | error e => simp [bind, Except.bind]
  | ok l =>
      simp only [bind, Except.bind, Except.ok.injEq, exists_eq_left']
      cases s.get? l with
      | none => simp
      | some n => cases n <;> simp

theorem isFile_iff : s.isFile p = true ↔ ∃ content, s.read p = .ok content := by
  simp only [read_eq_ok_iff]
  unfold isFile node?
  cases s.locate p with
  | error e => simp
  | ok l =>
      simp only [Except.ok.injEq, exists_eq_left']
      cases s.get? l with
      | none => simp
      | some n => cases n <;> simp

/-- A file is still a file after a write, be it another one. -/
theorem exists_read_of_write {c : ByteArray} (h : s.write q content = .ok t)
    (read : s.read p = .ok c) : ∃ c', t.read p = .ok c' := by
  obtain ⟨l, there, file⟩ := read_eq_ok_iff.1 read
  have there' := (sameTree_of_write h).locate_eq_ok_iff.1 there
  by_cases same : s.locate q = .ok l
  · exact ⟨content, read_eq_ok_iff.2 ⟨l, there', get?_of_write_self h same⟩⟩
  · exact ⟨c, read_eq_ok_iff.2 ⟨l, there', (get?_of_write h same).trans file⟩⟩

theorem makeDirectory_of_isDirectory (here : s.isDirectory p = true) :
    s.makeDirectory p = .error .occupied := by
  unfold Store.isDirectory Store.node? at here
  unfold Store.makeDirectory
  cases led : s.locate p with
  | error c => rw [led] at here; exact nomatch here
  | ok l =>
      rw [led] at here
      simp only [bind, Except.bind]
      cases found : s.get? l with
      | none => simp [found] at here
      | some n => rfl

/-- The two stores agree where the path leads, if it leads anywhere. -/
def AgreeAt (p : Path) (s t : Store) : Prop := ∀ l, s.locate p = .ok l → s.get? l = t.get? l

theorem AgreeAt.read_eq_ok_iff (h : SameTree s t) (agree : AgreeAt p s t) :
    s.read p = .ok content ↔ t.read p = .ok content := by
  rw [Store.read_eq_ok_iff, Store.read_eq_ok_iff]
  constructor
  · rintro ⟨l, there, file⟩
    exact ⟨l, h.locate_eq_ok_iff.1 there, agree l there ▸ file⟩
  · rintro ⟨l, there, file⟩
    have there := h.locate_eq_ok_iff.2 there
    exact ⟨l, there, (agree l there).trans file⟩

theorem AgreeAt.isFile_eq (h : SameTree s t) (agree : AgreeAt p s t) :
    s.isFile p = t.isFile p := by
  rw [Bool.eq_iff_iff, isFile_iff, isFile_iff]
  simp only [agree.read_eq_ok_iff h]

/-- After the same write to both, stores agree where they agreed, and where the write went. -/
theorem AgreeAt.write (h : SameTree s t) (agree : AgreeAt p s t)
    (hu : s.write q content = .ok u) (hv : t.write q content = .ok v) : AgreeAt p u v := by
  intro l there
  have there := (sameTree_of_write hu).locate_eq_ok_iff.2 there
  by_cases same : s.locate q = .ok l
  · rw [get?_of_write_self hu same, get?_of_write_self hv (h.locate_eq_ok_iff.1 same)]
  · rw [get?_of_write hu same, get?_of_write hv (mt h.locate_eq_ok_iff.2 same)]
    exact agree l there

/-- A write that went elsewhere does not change what a path reads. -/
theorem read_of_write_elsewhere (h : s.write q content = .ok t) (apart : s.locate q ≠ s.locate p)
    {c : ByteArray} : t.read p = .ok c ↔ s.read p = .ok c := by
  have agree : AgreeAt p s t := fun l there =>
    (get?_of_write h fun here => apart (here.trans there.symm)).symm
  exact (agree.read_eq_ok_iff (sameTree_of_write h)).symm

/-! ## Siblings -/

theorem walk_append (s : Store) (rest : List String) :
    ∀ (steps : List String) (start : Location),
      s.walk start (steps ++ rest) = (s.walk start steps).bind fun d => s.walk d rest
  | [], start => rfl
  | step :: steps, start => by
      by_cases here : s.get? start = some .directory
      · rw [List.cons_append, walk_of_directory here, walk_of_directory here]
        cases stepFrom start step with
        | error c => rfl
        | ok l => exact walk_append s rest steps l
      · rw [List.cons_append, walk, walk]
        split
        · rfl
        · rfl
        · next there => exact absurd there here

theorem stepFrom_name {n : String} (name : n ≠ "." ∧ n ≠ "..") (d : Location) :
    stepFrom d n = .ok (d ++ [n]) ∨ stepFrom d n = .error .nameTooLong := by
  rw [stepFrom, if_neg name.1, if_neg name.2]
  split
  · exact Or.inr rfl
  · exact Or.inl rfl

variable {anchor : Anchor} {parts : List String} {n n' : String}

/-- Where the parts before the last one lead to a directory, a proper name leads into it, unless
it is too long. -/
theorem locate_snoc_of_directory (name : n ≠ "." ∧ n ≠ "..") {d : Location}
    (came : s.walk (if Path.isAbsolute ⟨anchor, parts⟩ then [] else s.here) parts = .ok d)
    (here : s.get? d = some .directory) :
    s.locate ⟨anchor, parts ++ [n]⟩ = .ok (d ++ [n]) ∨
      s.locate ⟨anchor, parts ++ [n]⟩ = .error .nameTooLong := by
  rw [locate]
  split
  · exact Or.inr rfl
  · show s.walk (if Path.isAbsolute ⟨anchor, parts⟩ then [] else s.here) (parts ++ [n]) = _ ∨
      s.walk (if Path.isAbsolute ⟨anchor, parts⟩ then [] else s.here) (parts ++ [n]) = _
    rw [walk_append, came, Except.bind, walk_of_directory here]
    rcases stepFrom_name name d with e | e <;> rw [e]
    · exact Or.inl rfl
    · exact Or.inr rfl

/-- A path with a proper name leads into the directory that the other parts lead to. -/
theorem exists_of_locate_snoc (name : n ≠ "." ∧ n ≠ "..")
    (h : s.locate ⟨anchor, parts ++ [n]⟩ = .ok l) :
    ∃ d, s.walk (if Path.isAbsolute ⟨anchor, parts⟩ then [] else s.here) parts = .ok d ∧
      s.get? d = some .directory ∧ l = d ++ [n] := by
  rw [locate] at h
  split at h
  · cases h
  · change s.walk (if Path.isAbsolute ⟨anchor, parts⟩ then [] else s.here) (parts ++ [n]) = .ok l
      at h
    rw [walk_append] at h
    cases e : s.walk (if Path.isAbsolute ⟨anchor, parts⟩ then [] else s.here) parts with
    | error c => rw [e] at h; cases h
    | ok d =>
        rw [e, Except.bind] at h
        by_cases here : s.get? d = some .directory
        · rw [walk_of_directory here] at h
          rcases stepFrom_name name d with e | e <;> rw [e] at h
          · exact ⟨d, rfl, here, (Except.ok.inj h).symm⟩
          · cases h
        · rcases walk_of_not_directory here n [] with stopped | stopped
          · cases stopped.symm.trans h
          · cases stopped.symm.trans h

/-- **Where one of two siblings leads somewhere, so does the other, unless it is too long.** -/
theorem locate_sibling (name : n ≠ "." ∧ n ≠ "..") (name' : n' ≠ "." ∧ n' ≠ "..")
    (h : s.locate ⟨anchor, parts ++ [n]⟩ = .ok l) :
    s.locate ⟨anchor, parts ++ [n']⟩ = .ok (l.dropLast ++ [n']) ∨
      s.locate ⟨anchor, parts ++ [n']⟩ = .error .nameTooLong := by
  obtain ⟨d, came, here, rfl⟩ := exists_of_locate_snoc name h
  rw [List.dropLast_concat]
  exact locate_snoc_of_directory name' came here

end BootLink.Store
