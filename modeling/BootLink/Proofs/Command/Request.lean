/-
# `BootLink.Proofs.Command.Request` — what the commands have in common before they start

    Requests specs help version request s args r    in files `s`, the command line `args` is a
                                                    request `r` that is accepted

It can be read, asks for neither help nor the release, and its values are accepted.  Then the
command does what was asked (`runIn_runOn`).

The components are found by the names in a configuration and by nothing else
(`components_congr`), and finding them changes no file (`looks_components`).
-/
import BootLink.Command.Settings
import BootLink.Proofs.Command.Report
import BootLink.Proofs.World.Looks

namespace BootLink

namespace Command

open BootLink.Task

section
variable {κ ρ : Type} [DecidableEq κ] {specs : List (OptionSpec κ)} {help version : κ}
  {request : Store → List (Item κ) → Checked ρ} {args : List String} {r : ρ} {w : World}

/-- The command line is a request that is accepted. -/
def Requests (specs : List (OptionSpec κ)) (help version : κ)
    (request : Store → List (Item κ) → Checked ρ) (s : Store) (args : List String) (r : ρ) : Prop :=
  ∃ items, readArguments specs args = .ok items ∧
    (items.find? fun item => item = .flag help || item = .flag version) = none ∧
    request s items = .ok r

/-- **A command does what it was asked.** -/
theorem runIn_runOn (asked : Requests specs help version request w.store args r) (tool : String)
    (run : ρ → Task Outcome) :
    (runOn tool specs help version args request run).runIn w = (run r).runIn w := by
  obtain ⟨items, read, plain, accepted⟩ := asked
  unfold runOn
  rw [read]
  dsimp only
  rw [plain]
  dsimp only
  rw [runIn_bind_of_ok runIn_get, accepted]

end

/-- A command that ends with status zero has done all that was asked. -/
theorem runIn_of_finish_zero {stage : String} {verbose verbose' : Bool} {t : Task Nat} {w v : World}
    (h : (finish stage verbose t).runIn w = (.ok (.finished 0 verbose'), v)) :
    ∃ u, t.runIn w = (.ok 0, u) ∧ u.store = v.store := by
  obtain ⟨status, v', finishes, left, told⟩ := finish_cases stage verbose t w
  obtain ⟨ended, rfl⟩ := Prod.mk.inj (finishes.symm.trans h)
  obtain ⟨rfl, -⟩ := Outcome.finished.inj (Except.ok.inj ended)
  have zero : (t.runIn w).1 = .ok 0 := told.resolve_right fun told => told.1 rfl
  exact ⟨(t.runIn w).2, Prod.ext zero rfl, left.symm⟩

theorem runIn_environmentConfig_eq_ok_iff {s : Setting} {config : Config} {w v : World} :
    (environmentConfig s).runIn w = (.ok config, v) ↔
      Config.ofEnvironment s.here s.environment = .ok config ∧ w = v := by
  rw [environmentConfig, runIn_ofExcept_eq_ok_iff]
  refine and_congr_left fun _ => ?_
  cases Config.ofEnvironment s.here s.environment with
  | ok c =>
      constructor
      · intro h
        exact congrArg Except.ok (Except.ok.inj h)
      · intro h
        exact congrArg Except.ok (Except.ok.inj h)
  | error limit =>
      constructor
      · intro h
        cases h
      · intro h
        cases h

end Command

namespace Catalogue

open BootLink.Task

/-- Finding components changes no file and looks at none. -/
theorem looks_components {s t : Store} (units : Catalogue) (config : Config) :
    Looks s t (units.components config) := by
  have named (name : Option String) : Looks s t (units.loadNamed name) := by
    unfold loadNamed
    split
    · split
      · exact looks_pure _
      · refine Looks.next ?_ fun _ => looks_pure _
        exact (looks_ofExcept _).next fun c => (looks_debug _).next fun _ => looks_pure _
    · exact looks_pure _
  exact (named _).next fun _ => (named _).next fun _ => (named _).next fun _ =>
    (named _).next fun _ => looks_pure _

/-- The components are those of the names. -/
theorem components_congr {units : Catalogue} {c c' : Config}
    (assembler : c.assembler = c'.assembler)
    (native : c.nativeGenerator = c'.nativeGenerator) (optimizer : c.optimizer = c'.optimizer)
    (bytecode : c.bytecodeGenerator = c'.bytecodeGenerator) :
    units.components c = units.components c' := by
  simp only [components, assembler, native, optimizer, bytecode]

/-- A component that is found: its name has two halves, its unit is there, and so is the member. -/
theorem find_of_member {units : Catalogue} {name unit member : String} {m : Member} {c : Component}
    (halves : splitName? name = some (unit, member)) (there : units.checkUnit unit = .ok ())
    (found : units.member? unit (steps member) = some m) (made : m.component = .ok c) :
    units.find name = .ok c := by
  unfold find
  rw [halves]
  dsimp only
  rw [there, found]
  exact made

theorem finds_loadNamed {units : Catalogue} {name : String} {c : Component} {s : Store}
    (ne : name ≠ "") (found : units.find name = .ok c) :
    Finds s (units.loadNamed (some name)) (.ok (some c)) := by
  unfold loadNamed load
  dsimp only
  rw [if_neg ne, found]
  exact ((finds_ofExcept _).bind ((finds_debug _).bind (finds_pure c))).bind (finds_pure (some c))

end Catalogue

end BootLink
