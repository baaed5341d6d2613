/-
# `BootLink.Proofs.Toolchain.Probing` — the search for the assembler stops at the first decision

    inquiry run limit before files cs    the questions to all candidates, in order, each with the
                                         launches before it and the files that those have left
    q.IsDecisive run                     the answer ends a search: status zero, or a failure that
                                         is neither the system's nor that of a program which does
                                         not come back in time
    IsFirst run questions j q            `q` is the first decisive question, and has the number `j`

The inquiry is what a search would ask if it did not stop, so it is there before the search is.  A
launcher may answer as it likes, by the launches so far and by the files, and may change the files
with every answer.

`probeFrom_of_decisive` and `probeFrom_of_not_decisive` are the two ways of one step.  By induction
on the candidates the search asks the inquiry up to the first decisive question and takes its answer
(`probe_stops_at_first_decision`).
-/
import BootLink.Proofs.World.Calls
import BootLink.Toolchain

namespace BootLink

/-- The failure is neither one of the system's nor that of a program which does not come back in
time. -/
def Failure.IsForeign (failure : Failure) : Prop :=
  (∀ condition detail, failure ≠ .system condition detail) ∧
    ∀ command limit, failure ≠ .timeExpired command limit

theorem Failure.isLaunchFailure_eq_false_iff {failure : Failure} :
    failure.isLaunchFailure = false ↔ failure.IsForeign := by
  cases failure with
  | system condition detail => exact iff_of_false nofun fun foreign => foreign.1 _ _ rfl
  | timeExpired command limit => exact iff_of_false nofun fun foreign => foreign.2 _ _ rfl
  | _ => exact iff_of_true rfl ⟨nofun, nofun⟩

/-- The answer ends a search for the assembler. -/
def Question.IsDecisive (run : Launcher) (q : Question) : Prop :=
  q.Succeeds run ∨ ∃ failure, (q.answer run).1 = .error failure ∧ failure.IsForeign

namespace Toolchain

open BootLink.Task

variable {run : Launcher} {limit : Option Seconds} {w : World} {candidate : String}
  {all candidates rest : List String}

/-- The question for a candidate's version, asked in a world. -/
def question (limit : Option Seconds) (w : World) (candidate : String) : Question :=
  ⟨w.launches, w.store, versionQuery limit candidate⟩

/-! ## One step -/

/-- What becomes of a candidate's answer, `next` being the search among those after it. -/
def judge (candidate : String) (next : Task String) : Except Failure ExitStatus → Task String
  | .error failure => do
    if failure.isLaunchFailure then
      Task.debug ("Assembler candidate " ++ Text.quoted candidate ++ " unusable: " ++
        failure.message)
      next
    else throw failure
  | .ok status => do
    if status = 0 then
      Task.info ("  Found NASM at: " ++ candidate)
      return candidate
    else
      Task.debug ("Assembler candidate " ++ Text.quoted candidate ++ " exited with " ++
        toString status.value)
      next

theorem probeFrom_cons (run : Launcher) (limit : Option Seconds) (all : List String)
    (candidate : String) (rest : List String) :
    probeFrom run limit all (candidate :: rest) =
      attempt (launch run (versionQuery limit candidate)) >>=
        judge candidate (probeFrom run limit all rest) := by
  rw [probeFrom]
  refine bind_congr ?_
  intro ended
  cases ended <;> rfl

/-- An answer ends the search with a failure, or with the candidate, or is only noted. -/
theorem judge_cases (candidate : String) (ended : Except Failure ExitStatus) :
    (∃ failure, ended = .error failure ∧ failure.IsForeign ∧
      ∀ next, judge candidate next ended = throw failure) ∨
    (ended = .ok 0 ∧ ∃ text, ∀ next,
      judge candidate next ended = Task.info text >>= fun _ => pure candidate) ∨
    (ended ≠ .ok 0 ∧ (∀ failure, ended = .error failure → ¬failure.IsForeign) ∧
      ∃ text, ∀ next, judge candidate next ended = Task.debug text >>= fun _ => next) := by
  cases ended with
  | error failure =>
    cases usable : failure.isLaunchFailure with
    | true =>
      refine .inr (.inr ⟨nofun, ?_, _, fun next => if_pos usable⟩)
      rintro _ ⟨⟩ foreign
      exact nomatch usable.symm.trans (Failure.isLaunchFailure_eq_false_iff.2 foreign)
    | false =>
      refine .inl ⟨failure, rfl, Failure.isLaunchFailure_eq_false_iff.1 usable, ?_⟩
      intro next
      exact if_neg (by rw [usable]; exact Bool.false_ne_true)
  | ok status =>
    by_cases zero : status = 0
    · exact .inr (.inl ⟨congrArg _ zero, _, fun next => if_pos zero⟩)
    · exact .inr (.inr ⟨fun e => zero (Except.ok.inj e), nofun, _, fun next => if_neg zero⟩)

/-- The world in which a candidate was asked. -/
theorem runIn_ask (run : Launcher) (limit : Option Seconds) (w : World) (candidate : String) :
    ∃ v, (attempt (launch run (versionQuery limit candidate))).runIn w =
        (.ok ((question limit w candidate).answer run).1, v) ∧
      v.store = ((question limit w candidate).answer run).2 ∧
      v.launches = w.launches ++ [versionQuery limit candidate] :=
  ⟨_, rfl, rfl, rfl⟩

/-- **A decisive answer ends the search.**  Nobody else is asked, and the end is the candidate or
the failure. -/
theorem probeFrom_of_decisive (all rest : List String)
    (decisive : (question limit w candidate).IsDecisive run) :
    ∃ v, (probeFrom run limit all (candidate :: rest)).runIn w =
        (((question limit w candidate).answer run).1.map fun _ => candidate, v) ∧
      v.store = ((question limit w candidate).answer run).2 ∧
      Calls (fun run => probeFrom run limit all (candidate :: rest)) run w
        [question limit w candidate] := by
  obtain ⟨v, asked, left, -⟩ := runIn_ask run limit w candidate
  have calls : Calls (fun run => attempt (launch run (versionQuery limit candidate))) run w
      [question limit w candidate] := (calls_launch _).attempt
  generalize answered : ((question limit w candidate).answer run).1 = ended at asked ⊢
  simp only [probeFrom_cons]
  rcases judge_cases candidate ended with ⟨failure, rfl, -, judged⟩ | ⟨rfl, text, judged⟩ |
    ⟨nonzero, unusable, -⟩
  · refine ⟨v, ?_, left, calls.bind asked ?_⟩
    · rw [runIn_bind_of_ok asked, judged, runIn_throw]
      rfl
    · simp only [judged]
      exact calls_of_quiet (quiet_throw _)
  · refine ⟨{ v with journal := v.journal.push (.log .info text) }, ?_, left,
      calls.bind asked ?_⟩
    · rw [runIn_bind_of_ok asked, judged]
      rfl
    · simp only [judged]
      exact calls_of_quiet ((quiet_info _).bind fun _ => quiet_pure _)
  · rcases decisive with zero | ⟨failure, failed, foreign⟩
    · exact absurd (answered.symm.trans zero) nonzero
    · exact absurd foreign (unusable failure (answered.symm.trans failed))

/-- **Any other answer is passed over.**  The search goes on among the rest, in the world that the
question has left. -/
theorem probeFrom_of_not_decisive (all rest : List String)
    (passed : ¬(question limit w candidate).IsDecisive run) :
    ∃ v, v.store = ((question limit w candidate).answer run).2 ∧
      v.launches = w.launches ++ [versionQuery limit candidate] ∧
      (probeFrom run limit all (candidate :: rest)).runIn w =
        (probeFrom run limit all rest).runIn v ∧
      ∀ calls, Calls (fun run => probeFrom run limit all rest) run v calls →
        Calls (fun run => probeFrom run limit all (candidate :: rest)) run w
          (question limit w candidate :: calls) := by
  obtain ⟨v, asked, left, later⟩ := runIn_ask run limit w candidate
  have call : Calls (fun run => attempt (launch run (versionQuery limit candidate))) run w
      [question limit w candidate] := (calls_launch _).attempt
  generalize answered : ((question limit w candidate).answer run).1 = ended at asked
  simp only [probeFrom_cons]
  rcases judge_cases candidate ended with ⟨failure, rfl, foreign, -⟩ | ⟨rfl, -⟩ |
    ⟨-, -, text, judged⟩
  · exact absurd (.inr ⟨failure, answered, foreign⟩) passed
  · exact absurd (.inl answered) passed
  · have noted : (Task.debug text).runIn v =
        (.ok ⟨⟩, { v with journal := v.journal.push (.log .debug text) }) := runIn_record _
    refine ⟨{ v with journal := v.journal.push (.log .debug text) }, left, later, ?_, ?_⟩
    · rw [runIn_bind_of_ok asked, judged, runIn_bind_of_ok noted]
    · intro calls more
      refine call.bind asked ?_
      simp only [judged]
      exact (quiet_debug text).bind_calls noted more

/-! ## The whole search -/

/-- The questions to all candidates, in order. -/
def inquiry (run : Launcher) (limit : Option Seconds) :
    List Launch → Store → List String → List Question
  | _, _, [] => []
  | before, files, candidate :: rest =>
    let q : Question := ⟨before, files, versionQuery limit candidate⟩
    q :: inquiry run limit (before ++ [q.launch]) (q.answer run).2 rest

/-- The first decisive question of a list, and its number. -/
structure IsFirst (run : Launcher) (questions : List Question) (j : Nat) (q : Question) : Prop where
  here : questions[j]? = some q
  decisive : q.IsDecisive run
  earlier : ∀ i < j, ∀ q', questions[i]? = some q' → ¬q'.IsDecisive run

theorem isFirst_head {q : Question} (questions : List Question) (decisive : q.IsDecisive run) :
    IsFirst run (q :: questions) 0 q where
  here := rfl
  decisive := decisive
  earlier i before := absurd before (Nat.not_lt_zero i)

theorem IsFirst.cons {questions : List Question} {j : Nat} {q first : Question}
    (h : IsFirst run questions j q) (passed : ¬first.IsDecisive run) :
    IsFirst run (first :: questions) (j + 1) q where
  here := h.here
  decisive := h.decisive
  earlier i before q' there := by
    cases i with
    | zero =>
      obtain rfl := Option.some.inj there
      exact passed
    | succ i => exact h.earlier i (Nat.lt_of_succ_lt_succ before) q' there

theorem map_launch_inquiry (run : Launcher) (limit : Option Seconds) (candidates : List String) :
    ∀ (before : List Launch) (files : Store),
      (inquiry run limit before files candidates).map (·.launch) =
        candidates.map (versionQuery limit) := by
  induction candidates with
  | nil =>
    intro before files
    rfl
  | cons candidate rest ih =>
    intro before files
    rw [inquiry, List.map_cons, List.map_cons, ih]

/-- How a search ends, and what it has asked until then. -/
theorem probeFrom_outcomes (run : Launcher) (limit : Option Seconds) (all : List String)
    (candidates : List String) : ∀ w : World,
      (∃ j q candidate, IsFirst run (inquiry run limit w.launches w.store candidates) j q ∧
        candidates[j]? = some candidate ∧
        Calls (fun run => probeFrom run limit all candidates) run w
          ((inquiry run limit w.launches w.store candidates).take (j + 1)) ∧
        ((probeFrom run limit all candidates).runIn w).1 =
          (q.answer run).1.map fun _ => candidate) ∨
      ((∀ q ∈ inquiry run limit w.launches w.store candidates, ¬q.IsDecisive run) ∧
        Calls (fun run => probeFrom run limit all candidates) run w
          (inquiry run limit w.launches w.store candidates) ∧
        ((probeFrom run limit all candidates).runIn w).1 = .error (.toolchainNotFound all)) := by
  induction candidates with
  | nil =>
    intro w
    exact .inr ⟨nofun, calls_of_quiet (quiet_throw _), rfl⟩
  | cons candidate rest ih =>
    intro w
    have asked : inquiry run limit w.launches w.store (candidate :: rest) =
        question limit w candidate :: inquiry run limit
          (w.launches ++ [versionQuery limit candidate])
          ((question limit w candidate).answer run).2 rest := rfl
    rw [asked]
    by_cases decisive : (question limit w candidate).IsDecisive run
    · obtain ⟨v, ran, -, calls⟩ := probeFrom_of_decisive all rest decisive
      exact .inl ⟨0, _, candidate, isFirst_head _ decisive, rfl, calls, congrArg Prod.fst ran⟩
    · obtain ⟨v, left, later, ran, calls⟩ := probeFrom_of_not_decisive all rest decisive
      have on := ih v
      rw [left, later] at on
      rw [ran]
      rcases on with ⟨j, q, found, first, named, asks, ended⟩ | ⟨none_decisive, asks, ended⟩
      · exact .inl ⟨j + 1, q, found, first.cons decisive, named, calls _ asks, ended⟩
      · exact .inr ⟨List.forall_mem_cons.2 ⟨decisive, none_decisive⟩, calls _ asks, ended⟩

/-- **The search stops at the first decision.**  Each question runs a candidate with `--version`.
The search asks the candidates in order, up to the first whose answer is decisive, and nobody after
it; it ends with that candidate, exactly as it was given, or with the failure of its answer.  If no
answer is decisive then every candidate has been asked once, and the failure names all of them. -/
theorem probe_stops_at_first_decision (run : Launcher) (limit : Option Seconds)
    (candidates : List String) (w : World) :
    (inquiry run limit w.launches w.store candidates).map (·.launch.command) =
      candidates.map (fun candidate => [candidate, "--version"]) ∧
    ((∃ j q candidate, IsFirst run (inquiry run limit w.launches w.store candidates) j q ∧
        candidates[j]? = some candidate ∧
        Calls (fun run => probe run limit candidates) run w
          ((inquiry run limit w.launches w.store candidates).take (j + 1)) ∧
        ((probe run limit candidates).runIn w).1 = (q.answer run).1.map fun _ => candidate) ∨
      ((∀ q ∈ inquiry run limit w.launches w.store candidates, ¬q.IsDecisive run) ∧
        Calls (fun run => probe run limit candidates) run w
          (inquiry run limit w.launches w.store candidates) ∧
        ((probe run limit candidates).runIn w).1 = .error (.toolchainNotFound candidates))) := by
  refine ⟨?_, probeFrom_outcomes run limit candidates candidates w⟩
  have launches := map_launch_inquiry run limit candidates w.launches w.store
  have commands := congrArg (List.map (·.command)) launches
  rw [List.map_map, List.map_map] at commands
  exact commands

namespace Sample

/-- A launcher with a state: the first program does not come back in time, all others end well. -/
def slowAtFirst : Launcher := fun before s l =>
  (if before.isEmpty then .error (.timeExpired l.command none) else .ok 0, s)

theorem slow_is_passed : ¬(question none {} "nasm").IsDecisive slowAtFirst := by
  rintro (zero | ⟨failure, failed, foreign⟩)
  · exact nomatch zero
  · obtain rfl := Except.error.inj failed
    exact foreign.2 _ _ rfl

end Sample

/-- A candidate that is named twice is asked twice, and found at the second attempt. -/
theorem found_at_second_attempt :
    ∃ calls, Calls (fun run => probe run none ["nasm", "nasm"]) Sample.slowAtFirst {} calls ∧
      calls.map (·.launch.command) = [["nasm", "--version"], ["nasm", "--version"]] ∧
      ((probe Sample.slowAtFirst none ["nasm", "nasm"]).runIn {}).1 = .ok "nasm" := by
  obtain ⟨-, ⟨j, q, candidate, first, named, calls, ended⟩ | ⟨passed, -⟩⟩ :=
    probe_stops_at_first_decision Sample.slowAtFirst none ["nasm", "nasm"] {}
  · have here := first.here
    match j with
    | 0 =>
      obtain rfl := Option.some.inj here
      exact absurd first.decisive Sample.slow_is_passed
    | 1 =>
      obtain rfl := Option.some.inj here
      obtain rfl := Option.some.inj named
      exact ⟨_, calls, rfl, ended⟩
    | j + 2 => exact nomatch here
  · exact absurd (.inl rfl) (passed _ (List.mem_cons_of_mem _ List.mem_cons_self))

end Toolchain

end BootLink
