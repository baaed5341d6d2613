/-
# `BootLink.Proofs.Command.Report` — what the exit status of a command tells

A failure is never reported with status zero, and one that the tools foresee never as an internal
error.  So a command ends with status zero only if its task ended with that status
(`finish_cases`), and in any case it leaves the files as its task did.
-/
import BootLink.Command.Report
import BootLink.Proofs.World.Ends

namespace BootLink.Command

open BootLink.Task

theorem report_status_ne_zero (stage : Option String) (verbose : Bool) (f : Failure) :
    (report stage verbose f).2 ≠ 0 := by
  unfold report
  dsimp only
  split
  case h_6 => split <;> simp
  all_goals simp

/-- A build failure is never reported as an internal one. -/
theorem report_ne_internal {f : Failure} (foreseen : f.isBuildFailure = true)
    (stage : Option String) (verbose : Bool) : (report stage verbose f).2 ≠ 3 := by
  simp only [report, foreseen, if_true]
  split <;> simp

/-- A task that ends well leaves nothing to be said. -/
theorem runIn_finish_of_ok {t : Task Nat} {status : Nat} {w v : World}
    (h : t.runIn w = (.ok status, v)) (stage : String) (verbose : Bool) :
    (finish stage verbose t).runIn w = (.ok (.finished status verbose), v) := by
  unfold finish
  rw [runIn_bind, runIn_attempt, h]
  rfl

/-- A failure that is told in one line leaves that line. -/
theorem runIn_finish_of_error {t : Task Nat} {e : Failure} {stage text : String} {verbose : Bool}
    {status : Nat} {w v : World} (h : t.runIn w = (.error e, v))
    (told : report (some stage) verbose e = ([.err text], status)) :
    (finish stage verbose t).runIn w =
      (.ok (.finished status verbose), { v with journal := v.journal.push (.err text) }) := by
  unfold finish
  rw [runIn_bind, runIn_attempt, h]
  dsimp only
  rw [told]
  rfl

/-- A command finishes, with the status of its task or with one that tells of a failure. -/
theorem finish_cases (stage : String) (verbose : Bool) (t : Task Nat) (w : World) :
    ∃ status v, (finish stage verbose t).runIn w = (.ok (.finished status verbose), v) ∧
      v.store = (t.runIn w).2.store ∧
      ((t.runIn w).1 = .ok status ∨ status ≠ 0 ∧ ∃ e, (t.runIn w).1 = .error e) := by
  unfold finish
  rw [runIn_bind, runIn_attempt]
  dsimp only
  cases h : (t.runIn w).1 with
  | ok status => exact ⟨status, _, rfl, rfl, .inl rfl⟩
  | error e =>
      have printed : Finds (t.runIn w).2.store
          ((report (some stage) verbose e).1.forM record) (.ok ⟨⟩) :=
        ends_forM (fun event => finds_record event) _
      obtain ⟨v, run, kept⟩ := printed rfl
      exact ⟨_, v, (runIn_bind_of_ok run _).trans rfl, kept,
        .inr ⟨report_status_ne_zero _ _ _, e, rfl⟩⟩

end BootLink.Command
