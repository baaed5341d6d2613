/-
# `BootLink.Proofs.World.Talks` — tasks that only talk

    w.saying events     the world with more in its journal
    x.Talks             the task has one end and one thing to say, whatever the world is

A task that talks sees nothing of the world and changes nothing in it but the journal.  So it looks
at no file (`Talks.looks`) and launches nothing (`Talks.quiet`).  It also says the same in every
world, and that is what the other two do not tell.
-/
import BootLink.Proofs.World.Calls
import BootLink.Proofs.World.Looks

namespace BootLink

/-- The world with more in its journal. -/
def World.saying (w : World) (events : Array Event) : World :=
  { w with journal := w.journal ++ events }

namespace World

theorem saying_empty (w : World) : w.saying #[] = w := by
  rw [saying, Array.append_empty]

theorem saying_saying (w : World) (events more : Array Event) :
    (w.saying events).saying more = w.saying (events ++ more) := by
  rw [saying, saying, saying, Array.append_assoc]

end World

namespace Task

variable {α β : Type} {x : Task α} {f : α → Task β} {s t : Store}

/-- The task ends in one way and says one thing, in every world. -/
def Talks (x : Task α) : Prop := ∃ r events, ∀ w, x.runIn w = (r, w.saying events)

theorem Talks.looks (h : Talks x) : Looks s t x := by
  obtain ⟨r, events, run⟩ := h
  have ends (u : Store) : Finds u x r := by
    intro w here
    exact ⟨w.saying events, run w, here⟩
  exact ⟨r, ends s, ends t⟩

theorem Talks.quiet (h : Talks x) : Quiet x := by
  obtain ⟨r, events, run⟩ := h
  intro w
  rw [run w]
  rfl

/-! ## Steps, and one after another -/

theorem talks_of_runIn {r : Except Failure α} (h : ∀ w, x.runIn w = (r, w)) : Talks x := by
  refine ⟨r, #[], ?_⟩
  intro w
  rw [h w, w.saying_empty]

theorem talks_pure (a : α) : Talks (pure a) := talks_of_runIn fun _ => runIn_pure a

theorem talks_ofExcept (r : Except Failure α) : Talks (ofExcept r) :=
  talks_of_runIn fun _ => runIn_ofExcept r

theorem talks_record (e : Event) : Talks (record e) := by
  refine ⟨.ok ⟨⟩, #[e], ?_⟩
  intro w
  rw [runIn_record, World.saying, Array.push_eq_append]

theorem talks_debug (text : String) : Talks (debug text) := talks_record _

theorem talks_info (text : String) : Talks (info text) := talks_record _

theorem Talks.bind (hx : Talks x) (hf : ∀ a, Talks (f a)) : Talks (x >>= f) := by
  obtain ⟨r, events, run⟩ := hx
  cases r with
  | error e =>
    refine ⟨.error e, events, ?_⟩
    intro w
    exact runIn_bind_of_error (run w) f
  | ok a =>
    obtain ⟨r, more, run'⟩ := hf a
    refine ⟨r, events ++ more, ?_⟩
    intro w
    rw [runIn_bind_of_ok (run w), run', w.saying_saying]

theorem talks_forM {g : α → Task PUnit} (h : ∀ a, Talks (g a)) (xs : List α) :
    Talks (xs.forM g) := by
  induction xs with
  | nil => exact talks_pure _
  | cons a xs ih => exact (h a).bind fun _ => ih

end Task

end BootLink
