/-
# `BootLink.Proofs.World.Calls` — which programs a task launches, and when

    q : Question         one question to a launcher: the launches before, the files at that moment,
                         and the program that is launched
    x.Calls run w calls  run in `w`, the task asks the launcher `run` these questions, in this order
    x.Quiet              the task launches nothing

A world logs its launches but not the files they met, so the log alone does not say *when* a program
was launched.  `Calls` says it by replay: whoever answers these questions as `run` does is answered
with the same run, so there is no other question, and none of them was asked with other files.

The launcher is an argument of the task.  A task without that argument has no program to ask, and
then it is quiet: its rules are at the end, one for each single step and one for each kind of loop.
-/
import BootLink.World.Lemmas

namespace BootLink

/-- One question to a launcher. -/
structure Question where
  before : List Launch
  files : Store
  launch : Launch

namespace Question

/-- What a launcher answers. -/
def answer (run : Launcher) (q : Question) : Except Failure ExitStatus × Store :=
  run q.before q.files q.launch

/-- The program ends with status zero. -/
def Succeeds (run : Launcher) (q : Question) : Prop := (q.answer run).1 = .ok 0

/-- Questions that follow one another, the first after some launches. -/
def Follow : List Launch → List Question → Prop
  | _, [] => True
  | before, q :: rest => q.before = before ∧ Follow (before ++ [q.launch]) rest

theorem follow_append {before : List Launch} {calls more : List Question} :
    Follow before (calls ++ more) ↔
      Follow before calls ∧ Follow (before ++ calls.map (·.launch)) more := by
  induction calls generalizing before with
  | nil => simp [Follow]
  | cons q rest ih =>
    simp only [List.cons_append, Follow, ih, List.map_cons, List.append_assoc, List.nil_append,
      and_assoc]

end Question

namespace Task

variable {α β : Type} {w v : World} {p : Path}

/-- The task asks the launcher these questions, in this order, and no others. -/
structure Calls (x : Launcher → Task α) (run : Launcher) (w : World) (calls : List Question) :
    Prop where
  /-- The log has grown by what was launched. -/
  launched : ((x run).runIn w).2.launches = w.launches ++ calls.map (·.launch)
  /-- Each question comes after those before it. -/
  follow : Question.Follow w.launches calls
  /-- A launcher that answers these questions alike is asked nothing else. -/
  nothingElse : ∀ run' : Launcher, (∀ q ∈ calls, q.answer run' = q.answer run) →
    (x run').runIn w = (x run).runIn w

/-- The task launches nothing. -/
def Quiet (x : Task α) : Prop := ∀ w, (x.runIn w).2.launches = w.launches

/-! ## Calls of one task after another -/

section
variable {x : Launcher → Task α} {f : Launcher → α → Task β} {run : Launcher}
  {calls more : List Question} {a : α} {e : Failure}

theorem calls_of_quiet {y : Task α} (quiet : Quiet y) : Calls (fun _ => y) run w [] where
  launched := (quiet w).trans (List.append_nil _).symm
  follow := trivial
  nothingElse _ _ := rfl

theorem calls_launch (l : Launch) :
    Calls (fun run => launch run l) run w [⟨w.launches, w.store, l⟩] where
  launched := rfl
  follow := ⟨rfl, trivial⟩
  nothingElse run' same := by
    have same := same _ List.mem_cons_self
    rw [Question.answer, Question.answer] at same
    rw [runIn_launch, runIn_launch, same]

theorem Calls.attempt (h : Calls x run w calls) :
    Calls (fun run => attempt (x run)) run w calls where
  launched := h.launched
  follow := h.follow
  nothingElse run' same := by
    rw [runIn_attempt, runIn_attempt, h.nothingElse run' same]

/-- Nothing is asked after a failure. -/
theorem Calls.bind_error (h : Calls x run w calls) (failed : (x run).runIn w = (.error e, v)) :
    Calls (fun run => x run >>= f run) run w calls where
  launched := by
    have launched := h.launched
    rw [failed] at launched
    rw [runIn_bind_of_error failed, launched]
  follow := h.follow
  nothingElse run' same := by
    have failed' := (h.nothingElse run' same).trans failed
    rw [runIn_bind_of_error failed, runIn_bind_of_error failed']

/-- First the questions of one task, then those of the next. -/
theorem Calls.bind (h : Calls x run w calls) (went : (x run).runIn w = (.ok a, v))
    (next : Calls (fun run => f run a) run v more) :
    Calls (fun run => x run >>= f run) run w (calls ++ more) := by
  have launched := h.launched
  rw [went] at launched
  refine ⟨?_, ?_, ?_⟩
  · rw [runIn_bind_of_ok went, next.launched, launched, List.map_append, List.append_assoc]
  · have follow := next.follow
    rw [launched] at follow
    exact Question.follow_append.2 ⟨h.follow, follow⟩
  · intro run' same
    have same_first : ∀ q ∈ calls, q.answer run' = q.answer run := by
      intro q hq
      exact same q (List.mem_append_left _ hq)
    have went' := (h.nothingElse run' same_first).trans went
    rw [runIn_bind_of_ok went, runIn_bind_of_ok went']
    exact next.nothingElse run' fun q hq => same q (List.mem_append_right _ hq)

/-- A task that launches nothing, and one that asks after it. -/
theorem Quiet.bind_calls {y : Task α} (quiet : Quiet y) (went : y.runIn w = (.ok a, v))
    (next : Calls (fun run => f run a) run v calls) :
    Calls (fun run => y >>= f run) run w calls :=
  (calls_of_quiet quiet).bind went next

/-- A task that asks, and one after it that launches nothing. -/
theorem Calls.bind_quiet (h : Calls x run w calls) {g : α → Task β} (quiet : ∀ a, Quiet (g a)) :
    Calls (fun run => x run >>= g) run w calls := by
  match ran : (x run).runIn w with
  | (.ok a, v) =>
    have both := h.bind (f := fun _ => g) ran (calls_of_quiet (quiet a))
    rwa [List.append_nil] at both
  | (.error e, v) => exact h.bind_error ran

end

/-! ## Tasks that launch nothing -/

section
variable {x : Task α} {f : α → Task β}

theorem Quiet.bind (hx : Quiet x) (hf : ∀ a, Quiet (f a)) : Quiet (x >>= f) := by
  intro w
  have quiet := hx w
  rw [runIn_bind]
  match ran : x.runIn w with
  | (.ok a, v) =>
    rw [ran] at quiet
    exact (hf a v).trans quiet
  | (.error e, v) =>
    rw [ran] at quiet
    exact quiet

theorem Quiet.attempt (h : Quiet x) : Quiet (attempt x) := h

/-- The world is at hand, and is as it was. -/
theorem quiet_get_bind {g : World → Task β} (h : ∀ w, ((g w).runIn w).2.launches = w.launches) :
    Quiet (get >>= g) := by
  intro w
  rw [runIn_bind_of_ok runIn_get]
  exact h w

theorem quiet_pure (a : α) : Quiet (pure a) := fun _ => rfl

theorem quiet_throw (e : Failure) : Quiet (throw e : Task α) := fun _ => rfl

/-- Nothing comes after a failure. -/
theorem quiet_throw_bind (e : Failure) (f : α → Task β) : Quiet (throw e >>= f) := fun _ => rfl

theorem quiet_ofExcept (r : Except Failure α) : Quiet (ofExcept r) := fun _ => rfl

theorem quiet_record (e : Event) : Quiet (record e) := fun _ => rfl

theorem quiet_debug (text : String) : Quiet (debug text) := quiet_record _

theorem quiet_info (text : String) : Quiet (info text) := quiet_record _

theorem quiet_warn (text : String) : Quiet (warn text) := quiet_record _

theorem quiet_validate (p : Path) : Quiet (validate p) := by
  intro w
  rw [runIn_validate]

theorem quiet_isFile (p : Path) : Quiet (isFile p) := by
  intro w
  rw [runIn_isFile]

theorem quiet_readBytes (p : Path) : Quiet (readBytes p) := by
  intro w
  rw [runIn_readBytes]

theorem quiet_readText (p : Path) : Quiet (readText p) := by
  refine (quiet_readBytes p).bind ?_
  intro content
  split
  · exact quiet_pure _
  · exact quiet_throw _

theorem quiet_writeBytes (p : Path) (content : ByteArray) : Quiet (writeBytes p content) := by
  intro w
  rw [runIn_writeBytes]
  split <;> rfl

theorem quiet_makeDirectory (p : Path) : Quiet (makeDirectory p) := by
  intro w
  rw [runIn_makeDirectory]
  split <;> rfl

theorem quiet_makeDirectoriesFrom (height : Nat) (p : Path) :
    Quiet (makeDirectoriesFrom height p) := by
  induction height generalizing p with
  | zero => exact quiet_makeDirectory p
  | succ height ih =>
    unfold makeDirectoriesFrom
    refine quiet_get_bind ?_
    intro w
    split
    · exact (ih p.parent).bind (fun _ => quiet_makeDirectory p) w
    · exact quiet_makeDirectory p w

theorem quiet_makeDirectories (p : Path) : Quiet (makeDirectories p) := by
  refine (quiet_validate p).bind ?_
  intro _
  refine quiet_get_bind ?_
  intro w
  split
  · rfl
  · exact quiet_makeDirectoriesFrom _ p w

/-! ### Loops -/

theorem quiet_forM {g : α → Task PUnit} (h : ∀ a, Quiet (g a)) : ∀ xs : List α, Quiet (xs.forM g)
  | [] => quiet_pure _
  | a :: xs => (h a).bind fun _ => quiet_forM h xs

theorem quiet_mapM (h : ∀ a, Quiet (f a)) (xs : List α) : Quiet (xs.mapM f) := by
  induction xs with
  | nil => exact quiet_pure _
  | cons a xs ih =>
    rw [List.mapM_cons]
    exact (h a).bind fun _ => ih.bind fun _ => quiet_pure _

theorem quiet_foldlM {g : β → α → Task β} (h : ∀ b a, Quiet (g b a)) (xs : List α) (b : β) :
    Quiet (xs.foldlM g b) := by
  induction xs generalizing b with
  | nil => exact quiet_pure b
  | cons a xs ih =>
    rw [List.foldlM_cons]
    exact (h b a).bind ih

end

end Task

end BootLink
