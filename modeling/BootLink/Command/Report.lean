/-
# `BootLink.Command.Report` — how a command ends

A command ends with an exit status: 0 for success, 1 where a step of the build failed, 2 where there
was nothing to build from, and 3 for anything unforeseen. What was logged and printed goes to the
two output streams: the log and the failures to the second one, in the order in which they came. A
printed text keeps its control sequences only if it goes to a terminal, the log keeps them always.
-/
import BootLink.Text.Control
import BootLink.World

namespace BootLink.Command

/-- The release of the tools. -/
def release : String := "1.0.0"

/-- What a tool says of its release. -/
def releaseLine (tool : String) : String := tool ++ ", version " ++ release

/-- How a command ends: its arguments are refused, it is only asked how it is called, or it finishes
with a status. Only a command that runs knows whether it is to be verbose. -/
inductive Outcome
  | usage
  | help
  | finished (status : Nat) (verbose : Bool)
  deriving DecidableEq, Repr

/-- What is printed for a failure, and the status that it leads to. -/
def report (stage : Option String) (verbose : Bool) (f : Failure) : List Event × Nat :=
  let setup := ([Event.err ("Error: " ++ f.message)], 2)
  let internal := (Event.err ("Internal error: " ++ f.message) ::
    (if verbose then [.trace] else []), 3)
  match f with
  | .sourceNotFound .. | .component _ | .badOption _ => setup
  | .system .missing _ | .system .denied _ => setup
  | _ =>
    if f.isBuildFailure then
      let lead := ((stage.filter (· ≠ "")).map (· ++ " error: ")).getD "Error: "
      ([.err (lead ++ f.message)], 1)
    else internal

/-- Finishes a command: its status, or a report of its failure. -/
def finish (stage : String) (verbose : Bool) (t : Task Nat) : Task Outcome := do
  match ← Task.attempt t with
  | .ok status => return .finished status verbose
  | .error failure =>
    let (events, status) := report (some stage) verbose failure
    events.forM Task.record
    return .finished status verbose

/-- Prints what a tool says of its release. -/
def showRelease (tool : String) : Task Outcome := do
  Task.record (.out (releaseLine tool))
  return .finished 0 false

/-! ## Output streams -/

/-- A printed line. -/
def line (terminal : Bool) (text : String) : String :=
  (if terminal then text else String.ofList (Text.withoutControls text.toList)) ++ "\n"

/-- The first stream. -/
def stdout (terminal : Bool) (journal : Array Event) : String :=
  String.join <| journal.toList.filterMap fun
    | .out text => some (line terminal text)
    | _ => none

/-- An entry of the second stream. Without `verbose`, details are left out and levels not named. -/
def errText? (terminal verbose : Bool) (trace : String) : Event → Option String
  | .out _ => none
  | .err text => some (line terminal text)
  | .trace => some trace
  | .log level text =>
    if verbose then some (level.name ++ ": " ++ text ++ "\n")
    else if level = .debug then none
    else some (text ++ "\n")

/-- The second stream; `trace` stands for a developer's trace. -/
def stderr (terminal verbose : Bool) (trace : String) (journal : Array Event) : String :=
  String.join (journal.toList.filterMap (errText? terminal verbose trace))

end BootLink.Command
