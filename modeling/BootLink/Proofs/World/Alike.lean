/-
# `BootLink.Proofs.World.Alike` — tasks that run alike in two stores

    x.Alike s t post     the task `x` has one end for files `s` and files `t`; if it ends with an
                         answer, `post` holds of the answer and of the files left on both sides

A task that looks is alike and leaves both stores as they were (`Looks.alike`).  One that writes is
alike where its path leads to the same place in both (`alike_writeBytes`), and one that makes
directories where they are there already, or where the stores cannot be told apart.
-/
import BootLink.Proofs.Store.Leftovers
import BootLink.Proofs.World.Looks

namespace BootLink.Task

variable {α β : Type} {s t : Store} {x : Task α} {f : α → Task β} {p : Path}
  {stale stale' : List Path}

/-- The task ends in the same way in both stores, with files that `post` relates if it ends with an
answer. -/
def Alike (s t : Store) (x : Task α) (post : α → Store → Store → Prop) : Prop :=
  ∃ r s' t', Ends s x r s' ∧ Ends t x r t' ∧ ∀ a, r = .ok a → post a s' t'

section
variable {post post' : α → Store → Store → Prop} {after : β → Store → Store → Prop}

theorem Alike.bind (hx : Alike s t x post)
    (hf : ∀ a s' t', post a s' t' → Alike s' t' (f a) after) : Alike s t (x >>= f) after := by
  obtain ⟨r, s', t', hs, ht, h⟩ := hx
  cases r with
  | error e =>
      exact ⟨.error e, s', t', hs.bind_error f, ht.bind_error f, fun _ answer => nomatch answer⟩
  | ok a =>
      obtain ⟨r, s'', t'', fs, ft, h'⟩ := hf a s' t' (h a rfl)
      exact ⟨r, s'', t'', hs.bind fs, ht.bind ft, h'⟩

theorem Alike.mono (h : Alike s t x post) (weaker : ∀ a s' t', post a s' t' → post' a s' t') :
    Alike s t x post' := by
  obtain ⟨r, s', t', hs, ht, h⟩ := h
  exact ⟨r, s', t', hs, ht, fun a answer => weaker a s' t' (h a answer)⟩

theorem Alike.attempt (h : Alike s t x post) :
    Alike s t (attempt x) fun r s' t' => ∀ a, r = .ok a → post a s' t' := by
  obtain ⟨r, s', t', hs, ht, h⟩ := h
  refine ⟨.ok r, s', t', hs.attempt, ht.attempt, ?_⟩
  rintro _ ⟨⟩
  exact h

theorem Looks.alike (h : Looks s t x) (holds : ∀ a, Finds s x (.ok a) → post a s t) :
    Alike s t x post := by
  obtain ⟨r, hs, ht⟩ := h
  exact ⟨r, s, t, hs, ht, fun a answer => holds a (answer ▸ hs)⟩

/-- A task that looks, and one that is alike after it. -/
theorem Looks.bind_alike (hx : Looks s t x) (hf : ∀ a, Finds s x (.ok a) → Alike s t (f a) after) :
    Alike s t (x >>= f) after := by
  have h : Alike s t x fun a s' t' => (s' = s ∧ t' = t) ∧ Finds s x (.ok a) :=
    hx.alike fun a found => ⟨⟨rfl, rfl⟩, found⟩
  refine h.bind fun a s' t' => ?_
  rintro ⟨⟨rfl, rfl⟩, found⟩
  exact hf a found

theorem Looks.next_alike (hx : Looks s t x) (hf : ∀ a, Alike s t (f a) after) :
    Alike s t (x >>= f) after := hx.bind_alike fun a _ => hf a

/-- Runs that are alike end in the same way. -/
theorem Alike.runIn_eq (h : Alike s t x post) {w w' : World} (hw : w.store = s)
    (hw' : w'.store = t) : (x.runIn w).1 = (x.runIn w').1 := by
  obtain ⟨r, s', t', hs, ht, _⟩ := h
  obtain ⟨v, run, _⟩ := hs hw
  obtain ⟨v', run', _⟩ := ht hw'
  rw [run, run']

end

theorem alike_pure {post : α → Store → Store → Prop} {a : α} (h : post a s t) :
    Alike s t (pure a) post :=
  ⟨.ok a, s, t, finds_pure a, finds_pure a, fun _ answer => Except.ok.inj answer ▸ h⟩

theorem alike_throw {post : α → Store → Store → Prop} (e : Failure) :
    Alike s t (throw e) post :=
  ⟨_, s, t, finds_throw e, finds_throw e, fun _ answer => nomatch answer⟩

/-- Nothing comes after a failure. -/
theorem alike_throw_bind {post : β → Store → Store → Prop} (e : Failure) (f : α → Task β) :
    Alike s t (throw e >>= f) post :=
  ⟨_, s, t, (finds_throw e).bind_error f, (finds_throw e).bind_error f,
    fun _ answer => nomatch answer⟩

/-! ## Writing -/

theorem alike_writeBytes (h : Store.AgreeBut stale s t) (same : s.locate p = t.locate p)
    (left : ∀ q ∈ stale, q = p ∨ q ∈ stale') (content : ByteArray) :
    Alike s t (writeBytes p content) fun _ s' t' =>
      s.write p content = .ok s' ∧ t.write p content = .ok t' ∧ Store.AgreeBut stale' s' t' := by
  cases valid : p.isValid with
  | false =>
      exact ⟨_, s, t, finds_writeBytes_of_invalid valid content,
        finds_writeBytes_of_invalid valid content, fun _ answer => nomatch answer⟩
  | true =>
      rcases Store.writeOut_alike h.toSameTree same content with ⟨e, hs, ht⟩ |
        ⟨e, part, s', t', _, _, hs, ht⟩ | ⟨s', t', hs, ht, ended, ended'⟩
      · exact ⟨_, s, t, ends_writeBytes valid hs, ends_writeBytes valid ht,
          fun _ answer => nomatch answer⟩
      · exact ⟨_, s', t', ends_writeBytes valid hs, ends_writeBytes valid ht,
          fun _ answer => nomatch answer⟩
      · exact ⟨_, s', t', ends_writeBytes valid ended, ends_writeBytes valid ended',
          fun _ _ => ⟨hs, ht, h.write left hs ht⟩⟩

/-! ## Making directories -/

/-- What is done with the files may not depend on which store it is. -/
theorem alike_get_bind {f : World → Task β} {y : Task β} {post : β → Store → Store → Prop}
    (hs : ∀ w, w.store = s → f w = y) (ht : ∀ w, w.store = t → f w = y) (h : Alike s t y post) :
    Alike s t (get >>= f) post := by
  obtain ⟨r, s', t', ends, ends', holds⟩ := h
  refine ⟨r, s', t', fun w hw => ?_, fun w hw => ?_, holds⟩
  · rw [runIn_bind_of_ok runIn_get, hs w hw]
    exact ends hw
  · rw [runIn_bind_of_ok runIn_get, ht w hw]
    exact ends' hw

theorem alike_makeDirectory (h : Store.AgreeBut [] s t) (p : Path) :
    Alike s t (makeDirectory p) fun _ s' t' => Store.AgreeBut [] s' t' := by
  rcases h.makeDirectory p with ⟨c, hs, ht⟩ | ⟨s', t', hs, ht, made⟩
  · have there := h.isDirectory_eq p
    exact ⟨_, s, t, finds_makeDirectory_of_error hs, there ▸ finds_makeDirectory_of_error ht,
      fun _ _ => h⟩
  · exact ⟨_, s', t', ends_makeDirectory hs, ends_makeDirectory ht, fun _ _ => made⟩

theorem alike_makeDirectoriesFrom (h : Store.AgreeBut [] s t) (height : Nat) (p : Path) :
    Alike s t (makeDirectoriesFrom height p) fun _ s' t' => Store.AgreeBut [] s' t' := by
  induction height generalizing s t p with
  | zero => exact alike_makeDirectory h p
  | succ height ih =>
      have above : Alike s t (makeDirectoriesFrom height p.parent >>= fun _ => makeDirectory p)
          fun _ s' t' => Store.AgreeBut [] s' t' :=
        (ih h p.parent).bind fun _ _ _ h' => alike_makeDirectory h' p
      have alone := alike_makeDirectory h p
      unfold makeDirectoriesFrom
      rcases h.makeDirectory p with ⟨c, hs, ht⟩ | ⟨s', t', hs, ht, _⟩
      · cases c with
        | missing =>
            refine alike_get_bind ?_ ?_ above
            · rintro w rfl; rw [hs]
            · rintro w rfl; rw [ht]
        | _ =>
            refine alike_get_bind ?_ ?_ alone
            · rintro w rfl; rw [hs]
            · rintro w rfl; rw [ht]
      · refine alike_get_bind ?_ ?_ alone
        · rintro w rfl; rw [hs]
        · rintro w rfl; rw [ht]

theorem waiting_eq (h : Store.AgreeBut [] s t) (height : Nat) (p : Path) :
    waiting s height p = waiting t height p := by
  induction height generalizing p with
  | zero => rfl
  | succ height ih =>
      rw [waiting, waiting]
      rcases h.makeDirectory p with ⟨c, hs, ht⟩ | ⟨s', t', hs, ht, _⟩
      · rw [hs, ht]
        cases c with
        | missing => rw [ih]
        | _ => rfl
      · rw [hs, ht]

theorem alike_makeDirectories (h : Store.AgreeBut [] s t) (p : Path) :
    Alike s t (makeDirectories p) fun _ s' t' => Store.AgreeBut [] s' t' := by
  unfold makeDirectories
  refine looks_validate.next_alike fun _ => ?_
  by_cases deep : waitingLimit < waiting s p.parts.length p
  · refine alike_get_bind (fun w hw => ?_) (fun w hw => ?_)
      (alike_throw_bind (.broken .tooDeep "maximum recursion depth exceeded")
        fun _ : PUnit => makeDirectoriesFrom p.parts.length p)
    · rw [hw]
      exact if_pos deep
    · rw [hw]
      exact if_pos (waiting_eq h _ _ ▸ deep)
  · refine alike_get_bind (fun w hw => ?_) (fun w hw => ?_)
      (alike_makeDirectoriesFrom h p.parts.length p)
    · rw [hw]
      exact if_neg deep
    · rw [hw]
      exact if_neg (waiting_eq h _ _ ▸ deep)

end BootLink.Task
