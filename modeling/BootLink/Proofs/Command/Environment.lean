/-
# `BootLink.Proofs.Command.Environment` — an environment that is rejected

A configuration cannot be read from an environment whose limit is no number of seconds
(`ofEnvironment_eq_error_iff`).  Then a command that has understood what it is asked says so in one
line and does nothing else: no program is launched, and no file is changed.  `rosbuild` and
`rosconv` take it for an error in the options, with status two.  `rosrun` takes it for a fault of
its own, with status three (`rejected_environment`).
-/
import BootLink.Command
import BootLink.Proofs.Command.Convert

namespace BootLink

namespace Config

theorem environmentLimit_eq_error_iff {env : Environment} {limit : InvalidLimit} :
    environmentLimit env = .error limit ↔
      env.get? "ROMANOS_NASM_TIMEOUT" = some limit.given ∧ Seconds.ofText? limit.given = none := by
  unfold environmentLimit
  cases env.get? "ROMANOS_NASM_TIMEOUT" with
  | none => simp
  | some given =>
      dsimp only
      cases number : Seconds.ofText? given with
      | some t =>
          refine iff_of_false nofun ?_
          rintro ⟨same, none⟩
          obtain rfl := Option.some.inj same
          exact nomatch number.symm.trans none
      | none =>
          constructor
          · intro h
            obtain rfl := Except.error.inj h
            exact ⟨rfl, number⟩
          · rintro ⟨same, -⟩
            obtain rfl := Option.some.inj same
            rfl

/-- An environment is rejected just where it sets a limit that is no number of seconds. -/
theorem ofEnvironment_eq_error_iff {here : Path} {env : Environment} {limit : InvalidLimit} :
    ofEnvironment here env = .error limit ↔
      env.get? "ROMANOS_NASM_TIMEOUT" = some limit.given ∧ Seconds.ofText? limit.given = none := by
  rw [← environmentLimit_eq_error_iff]
  unfold ofEnvironment
  cases environmentLimit env with
  | ok t => exact iff_of_false nofun nofun
  | error l =>
      constructor
      · intro h
        exact congrArg Except.error (Except.error.inj h)
      · intro h
        exact congrArg Except.error (Except.error.inj h)

end Config

/-! ## One line -/

/-- A text without control characters; shown on a terminal, it stays on its line. -/
def IsPlain (text : String) : Prop := ∀ c ∈ text.toList, 0x20 ≤ c.toNat

theorem isPlain_of_all {text : String}
    (h : (text.toList.all fun c => decide (0x20 ≤ c.toNat)) = true) : IsPlain text :=
  fun c hc => of_decide_eq_true (List.all_eq_true.1 h c hc)

theorem IsPlain.append {a b : String} (ha : IsPlain a) (hb : IsPlain b) : IsPlain (a ++ b) := by
  intro c h
  rw [String.toList_append, List.mem_append] at h
  exact h.elim (ha c) (hb c)

theorem IsPlain.not_mem {text : String} (h : IsPlain text) {c : Char} (control : c.toNat < 0x20) :
    c ∉ text.toList :=
  fun hc => absurd (h c hc) (Nat.not_le.2 control)

theorem isPlain_quoted (s : String) : IsPlain (Text.quoted s) := by
  intro c h
  by_contra control
  have hidden := Text.isPrintable_eq_false_of_lt (Nat.not_le.1 control)
  exact Bool.false_ne_true (hidden.symm.trans (Text.isPrintable_of_mem_quoted h))

/-- Whatever was given for a limit, the message about it is plain. -/
theorem InvalidLimit.isPlain_message (limit : InvalidLimit) : IsPlain limit.message := by
  have lead : IsPlain "ROMANOS_NASM_TIMEOUT must be a number of seconds, got " :=
    isPlain_of_all (by decide +kernel)
  exact lead.append (isPlain_quoted limit.given)

namespace Command

open BootLink.Task

theorem line_eq {text : String} (plain : IsPlain text) (terminal : Bool) :
    line terminal text = text ++ "\n" := by
  cases terminal with
  | true => rfl
  | false =>
      rw [line, Text.withoutControls_eq_self (plain.not_mem (by decide)), String.ofList_toList]
      rfl

theorem stderr_push_err (terminal verbose : Bool) (trace text : String) (journal : Array Event) :
    stderr terminal verbose trace (journal.push (.err text)) =
      stderr terminal verbose trace journal ++ line terminal text := by
  have last : [Event.err text].filterMap (errText? terminal verbose trace) = [line terminal text] :=
    rfl
  rw [stderr, stderr, Array.toList_push, List.filterMap_append, last, String.join_append]
  simp only [String.join_cons, String.join_nil, String.append_empty]

theorem stdout_push_err (terminal : Bool) (text : String) (journal : Array Event) :
    stdout terminal (journal.push (.err text)) = stdout terminal journal := by
  unfold stdout
  rw [Array.toList_push, List.filterMap_append, List.filterMap_cons_none rfl, List.filterMap_nil,
    List.append_nil]

section
variable {w : World}

/-- All that comes of a task is a status, and one more line on the second stream. -/
structure OnlySays (t : Task Outcome) (w : World) (text : String) (status : Nat) : Prop where
  /-- It finishes with the files that it found, and has launched nothing. -/
  finishes : ∃ verbose, t.runIn w =
    (.ok (.finished status verbose), { w with journal := w.journal.push (.err text) })
  /-- The text is shown as it stands. -/
  shown : ∀ terminal verbose trace, stderr terminal verbose trace (w.journal.push (.err text)) =
    stderr terminal verbose trace w.journal ++ (text ++ "\n")
  /-- It is one line. -/
  oneLine : '\n' ∉ text.toList
  /-- Nothing goes to the first stream. -/
  silent : ∀ terminal, stdout terminal (w.journal.push (.err text)) = stdout terminal w.journal

/-- A command whose task fails before it has done anything, with a failure told in one line. -/
theorem onlySays_of_error {c : Task Outcome} {t : Task Nat} {e : Failure} {stage text : String}
    {verbose : Bool} {status : Nat} (ran : c.runIn w = (finish stage verbose t).runIn w)
    (failed : t.runIn w = (.error e, w))
    (told : report (some stage) verbose e = ([.err text], status)) (plain : IsPlain text) :
    OnlySays c w text status where
  finishes := ⟨verbose, ran.trans (runIn_finish_of_error failed told)⟩
  shown terminal verbose trace := by rw [stderr_push_err, line_eq plain]
  oneLine := plain.not_mem (by decide)
  silent terminal := stdout_push_err terminal text w.journal

end

/-! ## The three commands -/

section
variable {set : Setting} {args : List String} {limit : InvalidLimit} {w : World}

theorem runIn_environmentConfig_of_error
    (rejected : Config.ofEnvironment set.here set.environment = .error limit) :
    (environmentConfig set).runIn w = (.error (.badOption limit.message), w) := by
  rw [environmentConfig, runIn_ofExcept, rejected]
  rfl

theorem isPlain_error (limit : InvalidLimit) : IsPlain ("Error: " ++ limit.message) :=
  (isPlain_of_all (by decide +kernel)).append limit.isPlain_message

theorem isPlain_internalError (limit : InvalidLimit) :
    IsPlain ("Internal error: " ++ limit.message) :=
  (isPlain_of_all (by decide +kernel)).append limit.isPlain_message

theorem Build.onlySays {r : Build.Request} (asked : Build.Accepted w.store args r)
    (compatible : r.libraries = [] ∨ r.noLibrary = false)
    (rejected : Config.ofEnvironment set.here set.environment = .error limit) :
    OnlySays (Build.main set args) w ("Error: " ++ limit.message) 2 := by
  have agrees : (!r.libraries.isEmpty && r.noLibrary) = false := by
    rcases compatible with none | kept
    · rw [none]
      rfl
    · rw [kept, Bool.and_false]
  have fails : (Build.perform set r).runIn w = (.error (.badOption limit.message), w) := by
    unfold Build.perform
    rw [agrees]
    exact runIn_bind_of_error (runIn_environmentConfig_of_error rejected) _
  exact onlySays_of_error (Build.runIn_main asked) fails rfl (isPlain_error limit)

theorem Convert.onlySays {r : Convert.Request} (asked : Convert.Accepted w.store args r)
    (rejected : Config.ofEnvironment set.here set.environment = .error limit) :
    OnlySays (Convert.main set args) w ("Error: " ++ limit.message) 2 := by
  have fails : (Convert.perform set r).runIn w = (.error (.badOption limit.message), w) :=
    runIn_bind_of_error (runIn_environmentConfig_of_error rejected) _
  exact onlySays_of_error (runIn_runOn asked _ _) fails rfl (isPlain_error limit)

/-- The command line is a request that is accepted. -/
abbrev Run.Accepted (s : Store) (args : List String) (r : Run.Request) : Prop :=
  Requests Run.specs .help .version Run.request s args r

theorem Run.onlySays {r : Run.Request} (asked : Run.Accepted w.store args r)
    (rejected : Config.ofEnvironment set.here set.environment = .error limit) :
    OnlySays (Run.main set args) w ("Internal error: " ++ limit.message) 3 := by
  have fails : (Run.perform set r).runIn w = (.error (.broken .badValue limit.message), w) := by
    unfold Run.perform
    rw [rejected]
    exact runIn_bind_of_error (runIn_throw _) _
  exact onlySays_of_error (runIn_runOn asked _ _) fails rfl (isPlain_internalError limit)

/-- The command line is one that the command acts on. -/
inductive Understands (s : Store) (args : List String) : Command → Prop
  /-- What `rosbuild` accepts, with libraries or without, but not both at once. -/
  | build {r : Build.Request} (asked : Build.Accepted s args r)
      (compatible : r.libraries = [] ∨ r.noLibrary = false) : Understands s args .build
  | convert {r : Convert.Request} (asked : Convert.Accepted s args r) : Understands s args .convert
  | run {r : Run.Request} (asked : Run.Accepted s args r) : Understands s args .run

/-- **What becomes of an environment that is rejected.**  A command that has understood what it is
asked says one line and does nothing else.  All but `rosrun` say that it is an error, with status
two; `rosrun` says that it is an internal one, with status three. -/
theorem rejected_environment {c : Command} (understood : Understands w.store args c)
    (rejected : Config.ofEnvironment set.here set.environment = .error limit) :
    (c ≠ .run → OnlySays (c.perform set args) w ("Error: " ++ limit.message) 2) ∧
    (c = .run → OnlySays (c.perform set args) w ("Internal error: " ++ limit.message) 3) := by
  cases understood with
  | build asked compatible =>
      exact ⟨fun _ => Build.onlySays asked compatible rejected, nofun⟩
  | convert asked => exact ⟨fun _ => Convert.onlySays asked rejected, nofun⟩
  | run asked => exact ⟨fun ne => absurd rfl ne, fun _ => Run.onlySays asked rejected⟩

end

/-! ## A limit that is no number -/

namespace Understands.Sample

open BootLink.Build.Sample (store config idle)

/-- The limit is given in words. -/
def setting : Setting where
  launcher := idle
  here := config.root
  environment := [("ROMANOS_NASM_TIMEOUT", "soon")]

theorem rejected : Config.ofEnvironment setting.here setting.environment = .error ⟨"soon"⟩ :=
  Config.ofEnvironment_eq_error_iff.2 ⟨rfl, rfl⟩

/-- `rosrun hello` -/
theorem asked_run : Run.Accepted store ["hello"] ⟨"hello", none, none, Run.defaultEmulator⟩ :=
  ⟨_, rfl, rfl, rfl⟩

/-- `rosbuild hello` -/
theorem understands_build : Understands store ["hello"] .build :=
  .build (r := Build.Sample.asked) ⟨_, rfl, rfl, rfl⟩ (.inl rfl)

end Understands.Sample

section
open Understands.Sample
open BootLink.Build.Sample (store)

/-- The theorem applies to a program that is built. -/
theorem soon_is_rejected : Understands store ["hello"] .build ∧
    Config.ofEnvironment setting.here setting.environment = .error ⟨"soon"⟩ ∧
    OnlySays (build.perform setting ["hello"]) { store }
      ("Error: " ++ InvalidLimit.message ⟨"soon"⟩) 2 :=
  ⟨understands_build, rejected,
    (rejected_environment (w := { store }) understands_build rejected).1 nofun⟩

/-- One of the commands does not end with status two. -/
theorem rosrun_ends_with_three : ∃ verbose t, Understands store ["hello"] .run ∧
    Config.ofEnvironment setting.here setting.environment = .error ⟨"soon"⟩ ∧
    (run.perform setting ["hello"]).runIn { store } = (.ok (.finished 3 verbose), t) := by
  obtain ⟨verbose, finishes⟩ := (Run.onlySays (w := { store }) asked_run rejected).finishes
  exact ⟨verbose, _, .run asked_run, rejected, finishes⟩

end

end Command

end BootLink
