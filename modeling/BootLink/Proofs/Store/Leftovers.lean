/-
# `BootLink.Proofs.Store.Leftovers` — stores that differ in a few files

    AgreeBut stale s t     the directories are the same, and so is everything that stands where
                           none of the paths `stale` leads

The same write to both stores takes its path off the list (`AgreeBut.write`), so a list that gets
shorter step by step tells how two runs come to agree.  With the empty list the stores cannot be
told apart.

What differs cannot turn a path aside that passes by it (`AgreeBut.locate_eq_of_passes`).

Siblings lead to different locations, and where one of them leads somewhere the others do (or their
names are too long).  So if they are the paths that may differ, then each of them leads to the same
place in both stores (`AgreeBut.locate_sibling_eq`), whatever is left there.
-/
import BootLink.Proofs.Store.Tree

namespace BootLink.Store

/-- The stores hold the same, except where one of the paths leads to something that is not a
directory. -/
structure AgreeBut (stale : List Path) (s t : Store) : Prop extends SameTree s t where
  elsewhere (l : Location) : (∀ p ∈ stale, s.locate p ≠ .ok l) → s.get? l = t.get? l

variable {s t s' t' : Store} {stale stale' : List Path} {p : Path} {content : ByteArray}
  {l : Location}

theorem AgreeBut.of_sameTree (h : SameTree s t) (agree : ∀ l, s.get? l = t.get? l) :
    AgreeBut stale s t := ⟨h, fun l _ => agree l⟩

/-- **The same write to both takes its path off the list.** -/
theorem AgreeBut.write (h : AgreeBut stale s t) (left : ∀ q ∈ stale, q = p ∨ q ∈ stale')
    (hs : s.write p content = .ok s') (ht : t.write p content = .ok t') :
    AgreeBut stale' s' t' where
  toSameTree := (sameTree_of_write hs).symm.trans (h.toSameTree.trans (sameTree_of_write ht))
  elsewhere l away := by
    by_cases there : s.locate p = .ok l
    · rw [get?_of_write_self hs there, get?_of_write_self ht (h.locate_eq_ok_iff.1 there)]
    · rw [get?_of_write hs there, get?_of_write ht (mt h.locate_eq_ok_iff.2 there)]
      refine h.elsewhere l fun q hq => ?_
      rcases left q hq with rfl | hq
      · exact there
      · exact mt (sameTree_of_write hs).locate_eq_ok_iff.1 (away q hq)

/-! ## Ways that pass by -/

/-- On its way the path comes through the location. -/
def Passes (s : Store) (p : Path) (l : Location) : Prop :=
  ∃ k < p.parts.length,
    s.walk (if p.isAbsolute then [] else s.here) (p.parts.take k) = .ok l

theorem AgreeBut.walk_eq (h : AgreeBut stale s t) (steps : List String) (start : Location)
    (passes : ∀ k < steps.length, ∀ l, s.walk start (steps.take k) = .ok l →
      ∀ q ∈ stale, s.locate q ≠ .ok l) : s.walk start steps = t.walk start steps := by
  induction steps generalizing start with
  | nil => rfl
  | cons step rest ih =>
      have same := h.elsewhere start (passes 0 (Nat.succ_pos _) start rfl)
      by_cases here : s.get? start = some .directory
      · rw [walk_of_directory here, walk_of_directory (same ▸ here)]
        cases led : stepFrom start step with
        | error c => rfl
        | ok l =>
            refine ih l fun k hk l' came => passes (k + 1) (Nat.succ_lt_succ hk) l' ?_
            rw [List.take_succ_cons, walk_of_directory here, led]
            exact came
      · rw [walk, walk, same]
        cases there : t.get? start with
        | none => rfl
        | some n =>
            cases n with
            | file _ => rfl
            | directory => exact absurd (same.trans there) here

/-- **A path leads to the same place in both if it passes by all that differs**, or it leads
nowhere for the same reason. -/
theorem AgreeBut.locate_eq_of_passes (h : AgreeBut stale s t)
    (passes : ∀ q ∈ stale, ∀ l, s.locate q = .ok l → ¬ s.Passes p l) :
    s.locate p = t.locate p := by
  rw [locate, locate, h.here]
  split
  · rfl
  · refine h.walk_eq _ _ fun k hk l came q hq there => passes q hq l there ⟨k, hk, ?_⟩
    rw [h.here]
    exact came

/-! ## Stores that cannot be told apart -/

theorem AgreeBut.get?_eq (h : AgreeBut [] s t) (l : Location) : s.get? l = t.get? l :=
  h.elsewhere l fun _ hp => nomatch hp

theorem AgreeBut.locate_eq (h : AgreeBut [] s t) (p : Path) : s.locate p = t.locate p :=
  h.locate_eq_of_passes fun _ hq => nomatch hq

/-- A directory is made in both or in neither. -/
theorem AgreeBut.makeDirectory (h : AgreeBut [] s t) (p : Path) :
    (∃ c, s.makeDirectory p = .error c ∧ t.makeDirectory p = .error c) ∨
      ∃ s' t', s.makeDirectory p = .ok s' ∧ t.makeDirectory p = .ok t' ∧ AgreeBut [] s' t' := by
  unfold Store.makeDirectory
  rw [h.locate_eq p]
  cases t.locate p with
  | error c => exact Or.inl ⟨c, rfl, rfl⟩
  | ok l =>
      simp only [bind, Except.bind, h.get?_eq l]
      cases free : t.get? l with
      | some n => exact Or.inl ⟨_, rfl, rfl⟩
      | none =>
          have made (l' : Location) :
              (s.set l .directory).get? l' = (t.set l .directory).get? l' := by
            have ne : l ≠ [] := fun e => nomatch (e ▸ free : t.get? [] = none)
            by_cases here : l' = l
            · rw [here, get?_set_self s _ ne, get?_set_self t _ ne]
            · rw [get?_set_of_ne s _ here, get?_set_of_ne t _ here, h.get?_eq l']
          exact Or.inr ⟨_, _, rfl, rfl, .of_sameTree
            ⟨h.here, h.faults, fun l' => by rw [made l']⟩ made⟩

/-! ## Reading and writing where both lead alike -/

/-- A write succeeds in both or in neither. -/
theorem write_alike (h : SameTree s t) (same : s.locate p = t.locate p) (content : ByteArray) :
    (∃ c, s.write p content = .error c ∧ t.write p content = .error c) ∨
      ∃ s' t', s.write p content = .ok s' ∧ t.write p content = .ok t' := by
  cases led : s.locate p with
  | error c =>
      refine Or.inl ⟨c, ?_, ?_⟩
      · rw [Store.write, led]; rfl
      · rw [Store.write, ← same, led]; rfl
  | ok l =>
      have led' := same ▸ led
      by_cases here : s.get? l = some .directory
      · have here' := (h.directory l).1 here
        refine Or.inl ⟨.isDirectory, ?_, ?_⟩
        · simp only [Store.write, led, here, bind, Except.bind]
        · simp only [Store.write, led', here', bind, Except.bind]
      · have away := mt (h.directory l).2 here
        exact Or.inr ⟨_, _, write_eq_ok_iff.2 ⟨l, led, here, rfl⟩,
          write_eq_ok_iff.2 ⟨l, led', away, rfl⟩⟩

theorem SameTree.faultAt?_eq (h : SameTree s t) (same : s.locate p = t.locate p) :
    s.faultAt? p = t.faultAt? p := by
  rw [faultAt?, faultAt?, same, h.faults]

/-- A write ends in the same way in both: it is refused, or both take the same part of the content,
or all of it. -/
theorem writeOut_alike (h : SameTree s t) (same : s.locate p = t.locate p) (content : ByteArray) :
    (∃ e, s.writeOut p content = (.error e, s) ∧ t.writeOut p content = (.error e, t)) ∨
    (∃ e part s' t', s.write p part = .ok s' ∧ t.write p part = .ok t' ∧
      s.writeOut p content = (.error e, s') ∧ t.writeOut p content = (.error e, t')) ∨
    ∃ s' t', s.write p content = .ok s' ∧ t.write p content = .ok t' ∧
      s.writeOut p content = (.ok ⟨⟩, s') ∧ t.writeOut p content = (.ok ⟨⟩, t') := by
  have met := h.faultAt?_eq same
  rcases write_alike h same content with ⟨c, hs, ht⟩ | ⟨s', t', hs, ht⟩
  · exact .inl ⟨_, by rw [writeOut, hs], by rw [writeOut, ht]⟩
  · cases met_here : s.faultAt? p with
    | none =>
      exact .inr (.inr ⟨s', t', hs, ht, writeOut_of_write met_here hs,
        writeOut_of_write (met ▸ met_here) ht⟩)
    | some fault =>
      cases opened : fault.kept? with
      | none =>
        refine .inl ⟨fault.failure p, ?_, ?_⟩
        · simp only [writeOut, hs, met_here, opened]
        · simp only [writeOut, ht, ← met, met_here, opened]
      | some kept =>
        rcases write_alike h same (content.extract 0 kept) with ⟨c, refused, _⟩ | ⟨u, v, hu, hv⟩
        · cases (write_eq_error refused content).symm.trans hs
        · exact .inr (.inl ⟨_, _, u, v, hu, hv, CutShort.writeOut ⟨kept, met_here, opened, hu⟩,
            CutShort.writeOut ⟨kept, met ▸ met_here, opened, hv⟩⟩)

theorem read_eq_of_agreeAt (same : s.locate p = t.locate p) (agree : AgreeAt p s t) :
    s.read p = t.read p := by
  unfold Store.read
  rw [← same]
  cases led : s.locate p with
  | error c => rfl
  | ok l => simp only [bind, Except.bind, agree l led]

/-- What cannot be written cannot be read. -/
theorem read_of_write_eq_error {c : SystemCondition} (h : s.write p content = .error c) :
    s.read p = .error c := by
  cases led : s.locate p with
  | error c' =>
      rw [Store.write, led] at h
      rw [Store.read, led]
      exact congrArg Except.error (Except.error.inj h)
  | ok l =>
      by_cases here : s.get? l = some .directory
      · simp only [Store.write, led, here, bind, Except.bind] at h
        simp only [Store.read, led, here, bind, Except.bind]
        exact congrArg Except.error (Except.error.inj h)
      · have written : s.write p content = .ok (s.set l (.file content)) :=
          write_eq_ok_iff.2 ⟨l, led, here, rfl⟩
        cases h.symm.trans written

/-! ## Siblings -/

section
variable {anchor : Anchor} {parts names : List String} {n n' : String}

/-- Siblings lead to different locations. -/
theorem name_eq_of_locate (name : n ≠ "." ∧ n ≠ "..") (name' : n' ≠ "." ∧ n' ≠ "..")
    (h : s.locate ⟨anchor, parts ++ [n]⟩ = .ok l) (h' : s.locate ⟨anchor, parts ++ [n']⟩ = .ok l) :
    n = n' := by
  obtain ⟨d, _, _, rfl⟩ := exists_of_locate_snoc name h
  obtain ⟨d', _, _, same⟩ := exists_of_locate_snoc name' h'
  exact List.singleton_inj.1 (List.append_inj' same rfl).2

/-- Files in a directory that are called by one name, with different suffixes, are apart. -/
theorem suffix_eq_of_locate_child {dir : Path} {name x y : String} (hx : Path.IsSuffix x)
    (hy : Path.IsSuffix y) (h : s.locate (dir.child (name ++ x)) = .ok l)
    (h' : s.locate (dir.child (name ++ y)) = .ok l) : x = y := by
  obtain ⟨anchor, parts, stem, child⟩ := Path.exists_child_append dir name
  rw [child x hx] at h
  rw [child y hy] at h'
  exact (String.append_right_inj stem).1
    (name_eq_of_locate (hx.isName stem).2 (hy.isName stem).2 h h')

/-- **Where stores differ in siblings only, each sibling leads to the same place in both.** -/
theorem AgreeBut.locate_sibling_eq (proper : ∀ n ∈ names, n ≠ "." ∧ n ≠ "..")
    (h : AgreeBut (names.map fun n => ⟨anchor, parts ++ [n]⟩) s t) (hn : n ∈ names) :
    s.locate ⟨anchor, parts ++ [n]⟩ = t.locate ⟨anchor, parts ++ [n]⟩ := by
  by_cases led : ∃ n' ∈ names, ∃ l, s.locate ⟨anchor, parts ++ [n']⟩ = .ok l
  · obtain ⟨n', hn', l, led⟩ := led
    rcases locate_sibling (proper n' hn') (proper n hn) led with here | long
    · exact here.trans (h.locate_eq_ok_iff.1 here).symm
    · exact long.trans (h.locate_tooLong_iff.1 long).symm
  · -- nothing can be left over, so the stores are the same
    refine AgreeBut.locate_eq (.of_sameTree h.toSameTree fun l => h.elsewhere l ?_) _
    intro p hp there
    obtain ⟨n', hn', rfl⟩ := List.mem_map.1 hp
    exact led ⟨n', hn', l, there⟩

end

end BootLink.Store
