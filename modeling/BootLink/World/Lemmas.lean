/-
# `BootLink.World.Lemmas` — how the tasks of a world run

`runIn_bind` runs one task after another: a failure of the first is the end, in the world that it
left.  The other equations say of each task how it ends and in which world, so that what is built
from them can be followed without opening a monad.  A file is read, or the world stays as it was
(`runIn_readBytes`).  What a write does to the world it does to the files (`runIn_writeBytes`).
-/
import BootLink.Store.Lemmas
import BootLink.World

namespace BootLink.Task

variable {α β : Type} {w w' : World} {p : Path}

/-! ## One task after another -/

theorem runIn_bind (x : Task α) (f : α → Task β) :
    (x >>= f).runIn w =
      match x.runIn w with
      | (.ok a, v) => (f a).runIn v
      | (.error e, v) => (.error e, v) := by
  have step : (x >>= f).runIn w =
      (ExceptT.bindCont f (x.runIn w).1).run (x.runIn w).2 := rfl
  rw [step]
  match x.runIn w with
  | (.ok _, _) => rfl
  | (.error _, _) => rfl

theorem runIn_bind_of_ok {x : Task α} {a : α} (h : x.runIn w = (.ok a, w')) (f : α → Task β) :
    (x >>= f).runIn w = (f a).runIn w' := by
  rw [runIn_bind, h]

theorem runIn_bind_of_error {x : Task α} {e : Failure} (h : x.runIn w = (.error e, w'))
    (f : α → Task β) : (x >>= f).runIn w = (.error e, w') := by
  rw [runIn_bind, h]

/-- Where two tasks end with an answer, each of them has ended with one. -/
theorem runIn_bind_eq_ok_iff {x : Task α} {f : α → Task β} {b : β} :
    (x >>= f).runIn w = (.ok b, w') ↔
      ∃ a v, x.runIn w = (.ok a, v) ∧ (f a).runIn v = (.ok b, w') := by
  constructor
  · intro h
    match run : x.runIn w with
    | (.ok a, v) =>
      rw [runIn_bind_of_ok run] at h
      exact ⟨a, v, rfl, h⟩
    | (.error e, v) =>
      rw [runIn_bind_of_error run] at h
      exact nomatch h
  · rintro ⟨a, v, run, h⟩
    rw [runIn_bind_of_ok run, h]

theorem ofExcept_ok_bind (a : α) (f : α → Task β) : (ofExcept (.ok a) >>= f) = f a := rfl

/-! ## Single steps -/

@[simp] theorem runIn_pure (a : α) : (pure a : Task α).runIn w = (.ok a, w) := rfl

@[simp] theorem runIn_throw (f : Failure) : (throw f : Task α).runIn w = (.error f, w) := rfl

@[simp] theorem runIn_ofExcept (r : Except Failure α) : (ofExcept r).runIn w = (r, w) := rfl

theorem runIn_ofExcept_eq_ok_iff {r : Except Failure α} {a : α} :
    (ofExcept r).runIn w = (.ok a, w') ↔ r = .ok a ∧ w = w' := by
  rw [runIn_ofExcept, Prod.mk.injEq]

@[simp] theorem runIn_get : (get : Task World).runIn w = (.ok w, w) := rfl

@[simp] theorem runIn_set (v : World) : (set v : Task PUnit).runIn w = (.ok ⟨⟩, v) := rfl

@[simp] theorem runIn_modify (f : World → World) :
    (modify f : Task PUnit).runIn w = (.ok ⟨⟩, f w) := rfl

@[simp] theorem runIn_attempt (x : Task α) :
    (attempt x).runIn w = (.ok (x.runIn w).1, (x.runIn w).2) := rfl

@[simp] theorem runIn_record (e : Event) :
    (record e).runIn w = (.ok ⟨⟩, { w with journal := w.journal.push e }) := rfl

theorem runIn_launch (run : Launcher) (l : Launch) :
    (launch run l).runIn w =
      ((run w.launches w.store l).1,
        { w with store := (run w.launches w.store l).2, launches := w.launches ++ [l] }) := rfl

/-! ## Files -/

theorem runIn_validate (p : Path) :
    (validate p).runIn w = (if p.isValid then .ok ⟨⟩ else .error .nullCharacter, w) := by
  unfold validate
  split <;> rfl

theorem runIn_isFile (p : Path) :
    (isFile p).runIn w =
      (if p.isValid then
        match w.store.locate p with
        | .error .nameTooLong => .error (.system .nameTooLong (.onPath p))
        | _ => .ok (w.store.isFile p)
      else .ok false, w) := by
  unfold isFile
  cases p.isValid with
  | false => rfl
  | true =>
      simp only [Bool.not_true, Bool.false_eq_true, if_false, if_true]
      rw [runIn_bind_of_ok runIn_get]
      cases w.store.locate p with
      | ok l => rfl
      | error c => cases c <;> rfl

theorem runIn_readBytes (p : Path) :
    (readBytes p).runIn w =
      (if p.isValid then (w.store.read p).mapError fun c => .system c (.onPath p)
      else .error .nullCharacter, w) := by
  unfold readBytes
  rw [runIn_bind, runIn_validate]
  cases p.isValid <;> rfl

theorem runIn_writeBytes (p : Path) (content : ByteArray) :
    (writeBytes p content).runIn w =
      if p.isValid then
        ((w.store.writeOut p content).1, { w with store := (w.store.writeOut p content).2 })
      else (.error .nullCharacter, w) := by
  unfold writeBytes
  rw [runIn_bind, runIn_validate]
  cases p.isValid <;> rfl

/-- A write that ends with an answer was one to the store. -/
theorem store_of_runIn_writeBytes {content : ByteArray} {a : Unit}
    (h : (writeBytes p content).runIn w = (.ok a, w')) :
    w.store.write p content = .ok w'.store := by
  rw [runIn_writeBytes] at h
  split at h
  · obtain ⟨answered, rfl⟩ := Prod.mk.inj h
    rcases w.store.writeOut_cases p content with ⟨e, ended⟩ | ⟨fault, s, _, ended⟩ |
      ⟨s, written, ended⟩
    · rw [ended] at answered
      exact nomatch answered
    · rw [ended] at answered
      exact nomatch answered
    · rw [written, ended]
  · exact nomatch h

theorem runIn_makeDirectory (p : Path) :
    (makeDirectory p).runIn w =
      match w.store.makeDirectory p with
      | .ok s => (.ok ⟨⟩, { w with store := s })
      | .error c =>
          (if w.store.isDirectory p then .ok ⟨⟩ else .error (.system c (.onPath p)), w) := by
  unfold makeDirectory
  rw [runIn_bind_of_ok runIn_get]
  cases w.store.makeDirectory p with
  | ok s => rfl
  | error c =>
      dsimp only
      cases w.store.isDirectory p <;> rfl

end BootLink.Task
