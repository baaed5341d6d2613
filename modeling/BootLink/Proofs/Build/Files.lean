/-
# `BootLink.Proofs.Build.Files` — what a build writes

    gather            nothing
    generate          the output directory, then the files of the backend, in their order
    makeBinary        at most the binary, written by the external assembler
    packageImage      the image, and only if all went well before

`prepare_files` puts the first three together: a build that has not come to the image has made at
most its output directory and those on the way to it, and has written a prefix of
`config.written name mode`, the last of these files perhaps in part.  Then `packageImage_cases` says
that there is an image of the binary, or a part of one, or that nothing more has changed.

An image is not written beside the old one and then put in its place.  So a failure in the middle of
that write is the one that costs the old image (`Spoiled`).
-/
import BootLink.Proofs.Backend.Texts
import BootLink.Proofs.Build.Artifacts
import BootLink.Proofs.World.Writes

namespace BootLink

/-! ## The backends -/

namespace Backend

open BootLink.Task

variable {p : Program} {cs : Components} {name : String} {mode : Mode}

theorem writes_put (output : Path) (note : String) (artifacts : Artifacts) (text : String) :
    Writes (put output note artifacts text) [output] :=
  (writes_writeBytes output text.toUTF8).bind fun _ =>
    writes_of_looks fun _ => (looks_info _).next fun _ => looks_pure _

theorem writes_vmText (p : Program) (cs : Components) (bytecode template : Path) :
    Writes (vmText p cs bytecode template) [bytecode] :=
  (writes_of_looks fun _ => looks_vmBytes_alone).bind fun blob =>
    (writes_writeBytes bytecode blob).bind fun _ => writes_of_looks fun _ => looks_embed rfl

theorem writes_generateNative (output : Path) : Writes (generateNative p cs output) [output] := by
  rw [generateNative_eq]
  exact (writes_of_looks fun _ => looks_nativeText).bind fun text => writes_put output _ _ text

theorem writes_generateVm (bytecode assembly template : Path) :
    Writes (generateVm p cs bytecode assembly template) [bytecode, assembly] := by
  rw [generateVm_eq]
  exact (writes_vmText p cs bytecode template).bind fun text => writes_put assembly _ _ text

theorem writes_dispatch_native {dir : Path} (template : Option Path) :
    Writes (dispatch p .native cs dir name template) [dir.child (name ++ ".asm")] :=
  (writes_of_looks fun _ => looks_reportLayout).bind fun _ => writes_generateNative _

theorem writes_dispatch_vm {dir : Path} (template : Option Path) :
    Writes (dispatch p .vm cs dir name template)
      [dir.child (name ++ ".rombin"), dir.child (name ++ "-vm.asm")] := by
  refine (writes_of_looks fun _ => looks_reportLayout).bind ?_
  intro _
  cases template with
  | none => exact writes_throw _ _
  | some path => exact writes_generateVm _ _ _

end Backend

/-! ## The build -/

namespace Build

open BootLink.Task

variable {config : Config} {cs : Components} {launcher : Launcher} {name : String} {mode : Mode}
  {s t : Store}

theorem looks_gather_alone : Looks s s (gather config cs name mode) :=
  looks_gather (.refl s) (fun _ _ => rfl) fun _ _ _ _ => rfl

/-- What happened to the files before the image: directories were made, then a prefix of what a
build writes was written. -/
def Prepared (config : Config) (name : String) (mode : Mode) (s t : Store) : Prop :=
  ∃ made done, Store.Grown config.outputDir s made ∧ done <+: config.written name mode ∧
    Store.Written made done t

theorem Prepared.refl : Prepared config name mode s s :=
  ⟨s, [], .refl _ s, List.nil_prefix, .nil s⟩

/-- Packaging makes the image of the binary, or fails and changes nothing, or fails in the middle of
writing the image. -/
theorem packageImage_cases (s : Store) (binary image : Path) :
    (∃ e, Finds s (packageImage binary image) (.error e)) ∨
    (∃ e raw fault t, s.read binary = .ok raw ∧
      s.CutShort image (BootImage.ofBinary raw).data fault t ∧
      Ends s (packageImage binary image) (.error e) t) ∨
    ∃ raw t, s.read binary = .ok raw ∧
      s.write image (BootImage.ofBinary raw).data = .ok t ∧
      Ends s (packageImage binary image)
        (.ok (BootImage.ofBinary raw, cutWarning? (BootImage.ofBinary raw))) t := by
  rcases readBytes_cases s binary with ⟨e, failed⟩ | ⟨raw, read, got⟩
  · exact .inl ⟨e, finds_packageImage_of_read failed⟩
  · rcases writeBytes_cases s image (BootImage.ofBinary raw).data with
      ⟨e, failed⟩ | ⟨fault, t, cut, failed⟩ | ⟨t, written, ends⟩
    · exact .inl ⟨e, ends_packageImage_of_write got failed⟩
    · exact .inr (.inl ⟨_, raw, fault, t, read, cut, ends_packageImage_of_write got failed⟩)
    · exact .inr (.inr ⟨raw, t, read, written, ends_packageImage_of_write got ends⟩)

/-- The image holds what the binary holds. -/
theorem read_packaged {raw content : ByteArray}
    (read : s.read (config.output name ".bin") = .ok raw)
    (written : s.write (config.output name ".img") content = .ok t) :
    t.read (config.output name ".bin") = .ok raw ∧
      t.read (config.output name ".img") = .ok content := by
  obtain ⟨l, there, _⟩ := Store.read_eq_ok_iff.1 read
  have apart : s.locate (config.output name ".img") ≠ s.locate (config.output name ".bin") :=
    fun same => absurd (suffix_eq_of_locate (by decide) (by decide) (same.trans there) there)
      (by decide)
  exact ⟨(Store.read_of_write_elsewhere written apart).2 read, Store.read_of_write written⟩

/-! ## The whole build -/

theorem Prepared.faults (h : Prepared config name mode s t) : s.fault? = t.fault? := by
  obtain ⟨made, done, grown, _, written⟩ := h
  exact grown.faults.trans written.sameTree.faults

end Build

end BootLink
