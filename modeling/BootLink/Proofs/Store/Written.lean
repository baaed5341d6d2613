/-
# `BootLink.Proofs.Store.Written` — how a run changes a store

    Grown dir s t       there are new directories where `dir`, or a path above it, leads, and
                        nothing else has changed
    Written s ps t      the paths `ps` were written, one after the other
    ChangesOnly ps s t  whatever has changed, one of the paths `ps` leads there

A build makes its output directory and then writes, so the first two tell all that it does to a
store.  Neither changes where a path leads that led somewhere.  A location keeps its file while
directories are made, and while none of the written paths leads there (`Written.get?_eq`).
-/
import BootLink.Proofs.Store.Tree

namespace BootLink

/-- A path or one above it: its first parts. -/
def Path.above (p : Path) (k : Nat) : Path := { p with parts := p.parts.take k }

namespace Store

variable {s t u : Store} {dir p : Path} {ps qs : List Path} {l : Location} {content : ByteArray}

/-! ## Made directories -/

/-- There are new directories where `dir`, or a path above it, leads; all else is the same. -/
structure Grown (dir : Path) (s t : Store) : Prop where
  here : s.here = t.here
  faults : s.fault? = t.fault?
  kept (l : Location) : t.get? l = s.get? l ∨
    s.get? l = none ∧ t.get? l = some .directory ∧ ∃ k, t.locate (dir.above k) = .ok l

theorem Grown.refl (dir : Path) (s : Store) : Grown dir s s := ⟨rfl, rfl, fun _ => Or.inl rfl⟩

theorem Grown.directory (h : Grown dir s t) (here : s.get? l = some .directory) :
    t.get? l = some .directory := by
  rcases h.kept l with same | ⟨_, made, _⟩
  · exact same.trans here
  · exact made

/-- What led somewhere still leads there. -/
theorem Grown.locate (h : Grown dir s t) (led : s.locate p = .ok l) : t.locate p = .ok l :=
  locate_of_directories h.here (fun _ => h.directory) led

theorem Grown.trans (h : Grown dir s t) (h' : Grown dir t u) : Grown dir s u where
  here := h.here.trans h'.here
  faults := h.faults.trans h'.faults
  kept l := by
    rcases h'.kept l with same | ⟨absent, made, k, led⟩
    · rcases h.kept l with same' | ⟨absent, made, k, led⟩
      · exact Or.inl (same.trans same')
      · exact Or.inr ⟨absent, same.trans made, k, h'.locate led⟩
    · rcases h.kept l with same' | ⟨_, there, _⟩
      · exact Or.inr ⟨same' ▸ absent, made, k, led⟩
      · exact nomatch absent.symm.trans there

/-- The paths were written one after the other. -/
inductive Written : Store → List Path → Store → Prop
  | nil (s : Store) : Written s [] s
  | cons {s t u : Store} {p : Path} {content : ByteArray} {ps : List Path}
      (first : s.write p content = .ok t) (rest : Written t ps u) : Written s (p :: ps) u

theorem Written.append (h : Written s ps t) (h' : Written t qs u) : Written s (ps ++ qs) u := by
  induction h with
  | nil => exact h'
  | cons first _ ih => exact .cons first (ih h')

theorem Written.single (h : s.write p content = .ok t) : Written s [p] t := .cons h (.nil t)

theorem CutShort.written {fault : WriteFault} (h : s.CutShort p content fault t) :
    Written s [p] t := by
  obtain ⟨kept, _, _, part⟩ := h
  exact .single part

theorem Written.sameTree (h : Written s ps t) : SameTree s t := by
  induction h with
  | nil s => exact .refl s
  | cons first _ ih => exact (sameTree_of_write first).trans ih

/-- **Where none of the written paths leads, nothing has changed.** -/
theorem Written.get?_eq (h : Written s ps t) (away : ∀ p ∈ ps, s.locate p ≠ .ok l) :
    t.get? l = s.get? l := by
  induction h with
  | nil => rfl
  | cons first _ ih =>
      have tree := sameTree_of_write first
      rw [ih fun p hp => mt tree.locate_eq_ok_iff.2 (away p (List.mem_cons_of_mem _ hp))]
      exact get?_of_write first (away _ List.mem_cons_self)

/-- Nothing has changed but what one of the paths leads to. -/
def ChangesOnly (ps : List Path) (s t : Store) : Prop :=
  ∀ l, (∀ p ∈ ps, s.locate p ≠ .ok l) → t.get? l = s.get? l

theorem ChangesOnly.refl (ps : List Path) (s : Store) : ChangesOnly ps s s := fun _ _ => rfl

theorem Written.changesOnly (h : Written s qs t) (some_of : qs ⊆ ps) : ChangesOnly ps s t := by
  intro l away
  refine h.get?_eq ?_
  intro p hp
  exact away p (some_of hp)

/-! ## A file that is kept -/

end Store

end BootLink
