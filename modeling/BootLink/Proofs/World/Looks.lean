/-
# `BootLink.Proofs.World.Looks` — tasks that only look at files

    x.Looks s t     the task `x` has one end for files `s` and files `t`, and leaves both alone

Everything that a build does before it writes is a task that looks.  With `t = s` this says that
the task changes no file and depends on nothing but the files; with two different stores it says
that the task does not see the difference.  There is one rule for each single step, one for a task
after another, and one for each kind of loop.

What comes after a step may count on what the step has found: `Looks.bind` hands it on.  That is
how a file may be read after it was seen to be there.
-/
import BootLink.Proofs.World.Ends

namespace BootLink.Task

variable {α β : Type} {s t : Store} {x : Task α} {f : α → Task β} {p : Path}

/-- The task leaves the files alone and ends in the same way in both stores. -/
def Looks (s t : Store) (x : Task α) : Prop := ∃ r, Finds s x r ∧ Finds t x r

theorem Looks.exists_finds (h : Looks s s x) : ∃ r, Finds s x r := h.imp fun _ h => h.1

/-- A run of a task that looks. -/
theorem Looks.of_runIn {w v : World} {r : Except Failure α} (h : Looks w.store w.store x)
    (run : x.runIn w = (r, v)) : v.store = w.store ∧ Finds w.store x r := by
  obtain ⟨r', found⟩ := h.exists_finds
  obtain ⟨v', run', kept⟩ := found rfl
  obtain ⟨rfl, rfl⟩ := Prod.mk.inj (run.symm.trans run')
  exact ⟨kept, found⟩

/-! ## Tasks one after another -/

theorem Looks.bind (hx : Looks s t x) (hf : ∀ a, Finds s x (.ok a) → Looks s t (f a)) :
    Looks s t (x >>= f) := by
  obtain ⟨r, hs, ht⟩ := hx
  cases r with
  | error e => exact ⟨.error e, hs.bind_error f, ht.bind_error f⟩
  | ok a =>
      obtain ⟨r, fs, ft⟩ := hf a hs
      exact ⟨r, hs.bind fs, ht.bind ft⟩

/-- What was found before does not matter. -/
theorem Looks.next (hx : Looks s t x) (hf : ∀ a, Looks s t (f a)) : Looks s t (x >>= f) :=
  hx.bind fun a _ => hf a

theorem Looks.attempt (h : Looks s t x) : Looks s t (attempt x) := by
  obtain ⟨r, hs, ht⟩ := h
  exact ⟨.ok r, hs.attempt, ht.attempt⟩

theorem looks_pure (a : α) : Looks s t (pure a) := ⟨_, finds_pure a, finds_pure a⟩

theorem looks_throw (e : Failure) : Looks s t (throw e : Task α) :=
  ⟨_, finds_throw e, finds_throw e⟩

theorem looks_ofExcept (r : Except Failure α) : Looks s t (ofExcept r) :=
  ⟨_, finds_ofExcept r, finds_ofExcept r⟩

/-- Nothing comes after a failure. -/
theorem looks_throw_bind (e : Failure) (f : α → Task β) : Looks s t (throw e >>= f) :=
  ⟨_, (finds_throw e).bind_error f, (finds_throw e).bind_error f⟩

theorem looks_modify {g : World → World} (keeps : ∀ w, (g w).store = w.store) :
    Looks s t (modify g : Task PUnit) :=
  ⟨_, finds_modify keeps, finds_modify keeps⟩

theorem looks_record (e : Event) : Looks s t (record e) := looks_modify fun _ => rfl

theorem looks_debug (text : String) : Looks s t (debug text) := looks_record _

theorem looks_info (text : String) : Looks s t (info text) := looks_record _

theorem looks_warn (text : String) : Looks s t (warn text) := looks_record _

theorem looks_isFile (h : s.SameTree t) (agree : Store.AgreeAt p s t) : Looks s t (isFile p) := by
  refine ⟨((isFile p).runIn { store := s }).1, ?_, ?_⟩
  · rintro w rfl
    exact ⟨w, by rw [runIn_isFile, runIn_isFile], rfl⟩
  · rintro w rfl
    refine ⟨w, ?_, rfl⟩
    rw [runIn_isFile, runIn_isFile, agree.isFile_eq h]
    cases p.isValid with
    | false => rfl
    | true =>
        -- a name that is too long is too long in both, and nothing else is a failure
        have long := h.locate_tooLong_iff (p := p)
        simp only [if_true]
        split
        · next e => rw [long.2 e]
        · next e => split
                    · next e' => exact absurd (long.1 e') e
                    · rfl

theorem looks_readBytes (h : s.read p = t.read p) : Looks s t (readBytes p) :=
  ⟨_, finds_readBytes p, h ▸ finds_readBytes p⟩

theorem looks_readText (h : s.read p = t.read p) : Looks s t (readText p) := by
  unfold readText
  refine (looks_readBytes h).next fun content => ?_
  split
  · exact looks_pure _
  · exact looks_throw _

theorem looks_validate : Looks s t (validate p) := by
  unfold validate
  split
  · exact looks_pure _
  · exact looks_throw _

/-! ## Loops -/

theorem looks_forM {g : α → Task PUnit} {xs : List α} (h : ∀ a ∈ xs, Looks s t (g a)) :
    Looks s t (xs.forM g) := by
  induction xs with
  | nil => exact looks_pure _
  | cons a xs ih =>
      exact (h a List.mem_cons_self).next fun _ => ih fun b hb => h b (List.mem_cons_of_mem a hb)

theorem looks_mapM {xs : List α} (h : ∀ a ∈ xs, Looks s t (f a)) : Looks s t (xs.mapM f) := by
  induction xs with
  | nil => exact looks_pure _
  | cons a xs ih =>
      rw [List.mapM_cons]
      exact (h a List.mem_cons_self).next fun _ =>
        (ih fun b hb => h b (List.mem_cons_of_mem a hb)).next fun _ => looks_pure _

theorem looks_foldlM {g : β → α → Task β} (h : ∀ b a, Looks s t (g b a)) :
    ∀ (xs : List α) (b : β), Looks s t (xs.foldlM g b)
  | [], b => looks_pure b
  | a :: xs, b => by
      rw [List.foldlM_cons]
      exact (h b a).next fun b' => looks_foldlM h xs b'

end BootLink.Task
