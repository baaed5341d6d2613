/-
# `BootLink.Proofs.World.Launches` — what launched programs may do with files

A build launches two kinds of command lines: the question for a version, which names no files, and
the assembling of a source file to an output, which names both.  Two assumptions about launchers
are made here, and each is about the files that a command line names:

    run.WritesOutputOnly    a program changes at most its output
    run.Steady answer       besides, all that it does follows from its command line and from what
                            its source file holds: how it ends, and what it writes, if anything

A steady program need not write at all, whatever its exit status is.
-/
import BootLink.Proofs.World.Alike
import BootLink.Toolchain

namespace BootLink

namespace Launch

/-- The arguments after the one that announces an output. -/
def behindOutputFlag (l : Launch) : List String :=
  ((l.command.drop 1).dropWhile (· ≠ "-o")).drop 1

/-- The output that a command line names. -/
def output? (l : Launch) : Option Path := l.behindOutputFlag.head?.map .ofText

/-- The source file that a command line names, behind its output. -/
def source? (l : Launch) : Option Path := (l.behindOutputFlag.drop 1).head?.map .ofText

end Launch

namespace Store

/-- What a file holds, if there is one. -/
def content? (s : Store) (p : Path) : Option ByteArray := (s.read p).toOption

/-- The store after something was written, if it could be. -/
def put (s : Store) : Option Path → Option ByteArray → Store
  | some p, some content =>
    match s.write p content with
    | .ok t => t
    | .error _ => s
  | _, _ => s

end Store

namespace Launcher

/-- For a command line and what its source file holds, how the program ends and what it writes to
its output. -/
abbrev Answer := Launch → Option ByteArray → Except Failure ExitStatus × Option ByteArray

/-- How programs end and what they write follows from their command line and their source. -/
def Steady (run : Launcher) (answer : Answer) : Prop :=
  ∀ before s l, run before s l =
    ((answer l (l.source?.bind s.content?)).1,
      s.put l.output? (answer l (l.source?.bind s.content?)).2)

/-- Programs that end well, and write the same to every output. -/
def writing (content : ByteArray) : Launcher := fun _ s l => (.ok 0, s.put l.output? (some content))

theorem steady_writing (content : ByteArray) :
    (writing content).Steady fun _ _ => (.ok 0, some content) := fun _ _ _ => rfl

end Launcher

namespace Toolchain

open BootLink.Task

variable {run : Launcher} {answer : Launcher.Answer} {s t : Store} {source output : Path}
  {executable : String} {stale : List Path} {l : Launch}

theorem behindOutputFlag_versionQuery (wait : Option Seconds) (candidate : String) :
    (versionQuery wait candidate).behindOutputFlag = [] := by
  simp [Launch.behindOutputFlag, versionQuery]

/-- The launch that assembles a source file. -/
def assembly (wait : Option Seconds) (executable : String) (source output : Path) : Launch :=
  { command := assemblyCommand executable source output, limit := .ofOption wait }

theorem behindOutputFlag_assembly (wait : Option Seconds) (executable : String)
    (source output : Path) :
    (assembly wait executable source output).behindOutputFlag = [output.text, source.text] := by
  simp [Launch.behindOutputFlag, assembly, assemblyCommand]

theorem output?_assembly (normal : output.IsNormal) (wait : Option Seconds) (executable : String)
    (source : Path) : (assembly wait executable source output).output? = some output := by
  rw [Launch.output?, behindOutputFlag_assembly]
  exact congrArg some (Path.ofText_text normal)

theorem source?_assembly (normal : source.IsNormal) (wait : Option Seconds) (executable : String)
    (output : Path) : (assembly wait executable source output).source? = some source := by
  rw [Launch.source?, behindOutputFlag_assembly]
  exact congrArg some (Path.ofText_text normal)

/-! ## Steady programs -/

theorem ends_launch (steady : run.Steady answer) (s : Store) (l : Launch) :
    Ends s (launch run l) (answer l (l.source?.bind s.content?)).1
      (s.put l.output? (answer l (l.source?.bind s.content?)).2) := by
  rintro w rfl
  exact ⟨_, by rw [runIn_launch, steady], rfl⟩

theorem looks_versionQuery (steady : run.Steady answer) (wait : Option Seconds)
    (candidate : String) : Looks s t (launch run (versionQuery wait candidate)) := by
  have same (s : Store) : Finds s (launch run (versionQuery wait candidate))
      (answer (versionQuery wait candidate) none).1 := by
    have ends := ends_launch steady s (versionQuery wait candidate)
    rwa [Launch.output?, Launch.source?, behindOutputFlag_versionQuery] at ends
  exact ⟨_, same s, same t⟩

/-- Looking for the assembler. -/
theorem looks_probeFrom (steady : run.Steady answer) (wait : Option Seconds) (all : List String) :
    ∀ candidates : List String, Looks s t (probeFrom run wait all candidates)
  | [] => looks_throw _
  | candidate :: rest => by
      have again := looks_probeFrom steady wait all rest
      unfold probeFrom
      refine (looks_versionQuery steady wait candidate).attempt.next fun ended => ?_
      split
      · split
        · exact (looks_debug _).next fun _ => again
        · exact looks_throw _
      · split
        · exact (looks_info _).next fun _ => looks_pure _
        · exact (looks_debug _).next fun _ => again

/-- Both sides of a launch.  What was written reads the same afterwards. -/
theorem alike_launch (steady : run.Steady answer) (out : l.output? = some output)
    (src : l.source? = some source) (h : Store.AgreeBut stale s t)
    (read : s.read source = t.read source) (same : s.locate output = t.locate output) :
    Alike s t (launch run l) fun status s' t' =>
      ∃ content, (answer l content).1 = .ok status ∧ Store.AgreeBut stale s' t' ∧
        ((answer l content).2 = none ∧ s' = s ∧ t' = t ∨ s'.read output = t'.read output) := by
  have hs := ends_launch steady s l
  have ht := ends_launch steady t l
  have text : s.content? source = t.content? source := by rw [Store.content?, Store.content?, read]
  rw [src, out, Option.bind_some] at hs ht
  rw [← text] at ht
  generalize s.content? source = content at hs ht
  refine ⟨_, _, _, hs, ht, fun status ended => ⟨content, ended, ?_⟩⟩
  cases wrote : (answer l content).2 with
  | none => exact ⟨h, Or.inl ⟨rfl, rfl, rfl⟩⟩
  | some bytes =>
      rcases Store.write_alike h.toSameTree same bytes with ⟨c, hs, ht⟩ | ⟨s', t', hs, ht⟩
      · simp only [Store.put, hs, ht]
        refine ⟨h, Or.inr ?_⟩
        rw [Store.read_of_write_eq_error hs, Store.read_of_write_eq_error ht]
      · simp only [Store.put, hs, ht]
        refine ⟨h.write (fun q hq => Or.inr hq) hs ht, Or.inr ?_⟩
        rw [Store.read_of_write hs, Store.read_of_write ht]

/-- Programs that are to write this output and end with status zero have written it. -/
def Delivers (answer : Launcher.Answer) (output : Path) : Prop :=
  ∀ l content, l.output? = some output → (answer l content).1 = .ok 0 →
    (answer l content).2 ≠ none

/-- **Assembling alike.**  After the same source was assembled with status zero, the output reads
the same if it was written or was the same before. -/
theorem alike_assemble {wait : Option Seconds} (steady : run.Steady answer)
    (normal : source.IsNormal ∧ output.IsNormal)
    (h : Store.AgreeBut stale s t) (read : s.read source = t.read source)
    (same : s.locate output = t.locate output)
    (fresh : Delivers answer output ∨ Store.AgreeAt output s t) :
    Alike s t (assemble run wait executable source output) fun _ s' t' =>
      Store.AgreeBut stale s' t' ∧ s'.read output = t'.read output := by
  unfold assemble
  refine (looks_debug _).next_alike fun _ => ?_
  have out := output?_assembly normal.2 wait executable source
  have launched := alike_launch steady out (source?_assembly normal.1 wait executable output) h
    read same
  refine launched.attempt.bind fun ended s' t' facts => ?_
  split
  · exact alike_throw _
  · exact alike_throw _
  · next status =>
      obtain ⟨content, zero, agree, wrote⟩ := facts status rfl
      split
      · next h0 =>
          subst h0
          refine (looks_pure _).alike fun _ _ => ⟨agree, ?_⟩
          rcases wrote with ⟨nothing, rfl, rfl⟩ | wrote
          · rcases fresh with delivers | agreed
            · exact absurd nothing (delivers _ _ out zero)
            · exact Store.read_eq_of_agreeAt same agreed
          · exact wrote
      · exact alike_throw _

end Toolchain

end BootLink
