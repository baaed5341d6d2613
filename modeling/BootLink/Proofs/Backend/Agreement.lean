/-
# `BootLink.Proofs.Backend.Agreement` — the two files of the virtual machine agree

The bytecode leaves a build twice: as bytes in a file of its own, and as numbers in the boot
loader's text.  `vm_artifacts_agree` says that a dispatch that succeeds has written the same bytes
both times, and that the boot loader is the template in everything else.

The template must be another file than that of the bytecode.  Otherwise it is overwritten before it
is read.
-/
import BootLink.Proofs.Backend.Lowering
import BootLink.Proofs.Store.Leftovers
import BootLink.Proofs.Template.Region

namespace BootLink.Backend

open BootLink.Task

variable {p : Program} {cs : Components} {dir template : Path} {name : String}

/-- **The artifacts agree.**  The bytecode file holds what the bytecode generator returned, which is
not empty.  The text of the boot loader is that of the template, its line ends unified, with one
data line between the markers, and this line read as an assembler reads it defines the bytes of the
bytecode file. -/
theorem vm_artifacts_agree {artifacts : Artifacts} {w v : World}
    (succeeds : (dispatch p .vm cs dir name (some template)).runIn w = (.ok artifacts, v))
    (apart : w.store.locate template ≠ w.store.locate (dir.child (name ++ ".rombin"))) :
    artifacts = .ofMode dir name .vm ∧
    ∃ (blob : Blob) (content : ByteArray) (frame text : String),
      cs.blob p = .ok blob ∧ blob.bytes.data.toList ≠ [] ∧
      v.store.read (dir.child (name ++ ".rombin")) = .ok blob.bytes ∧
      w.store.read template = .ok content ∧ Text.Utf8.decode content = .ok frame ∧
      v.store.read (dir.child (name ++ "-vm.asm")) = .ok text.toUTF8 ∧
      Template.Embeds (Text.unifyLineEnds frame.toList) blob.bytes.data.toList text.toList := by
  obtain ⟨rfl, text, lowers⟩ := lowers_of_dispatch succeeds
  refine ⟨rfl, ?_⟩
  cases lowers with
  | vm generated stored read spliced written =>
      obtain ⟨content, frame, holds_frame, decoded, rfl⟩ := read_of_finds_readText read
      obtain ⟨ne, embeds⟩ := Template.embeds_of_splice spliced
      rw [String.toList_ofList] at embeds
      have read_before := (Store.read_of_write_elsewhere stored apart.symm).1 holds_frame
      have holds := Store.read_of_write stored
      -- the boot loader is not written where the bytecode is
      refine ⟨_, content, frame, text, generated, ne, ?_, read_before, decoded,
        Store.read_of_write written, embeds⟩
      refine (Store.read_of_write_elsewhere written fun same => ?_).2 holds
      obtain ⟨l, there, _⟩ := Store.read_eq_ok_iff.1 holds
      have suffixes :=
        Store.suffix_eq_of_locate_child (by decide) (by decide) (same.trans there) there
      exact absurd suffixes (by decide)

namespace Sample

def outputDir : Path := .ofText "build"

def templatePath : Path := .ofText "loader.asm"

/-- A boot loader with a region for bytecode. -/
def frame : String := "bytecode_start:\n    ; the program\nbytecode_end:\nhlt\n"

/-- The boot loader beside an output directory. -/
def store : Store where
  entries := ⟨[(["build"], .directory), (["loader.asm"], .file frame.toUTF8)], by decide⟩

/-- A generator of two bytes. -/
def components : Components where
  bytecode := { shape := .service, bytecode := some fun _ => .ok { bytes := ⟨#[0x90, 0xF4]⟩ } }

/-- The boot loader with the two bytes. -/
def loader : String := "bytecode_start:\n    db 0x90, 0xf4\nbytecode_end:\nhlt\n"

theorem splice_frame : Template.splice frame [0x90, 0xF4] = .ok loader := by
  have spliced : Template.spliceChars frame.toList [0x90, 0xF4] = .ok loader.toList := rfl
  rw [Template.splice, spliced]
  exact congrArg Except.ok String.ofList_toList

theorem locate_templatePath_ne :
    store.locate templatePath ≠ store.locate (outputDir.child ("hello" ++ ".rombin")) :=
  fun same => absurd (congrArg Except.toOption same) (by decide)

/-- A dispatch of a program without instructions. -/
theorem exists_dispatched : ∃ v,
    (dispatch {} .vm components outputDir "hello" (some templatePath)).runIn { store } =
      (.ok (.ofMode outputDir "hello" .vm), v) := by
  have reported : Finds store (reportLayout {}) (.ok ⟨⟩) := fun w hw => ⟨_, rfl, hw⟩
  have generated : Finds store (generateBytecode {} components) (.ok ⟨#[0x90, 0xF4]⟩) :=
    fun w hw => ⟨_, rfl, hw⟩
  have there : store.read templatePath = .ok frame.toUTF8 := rfl
  obtain ⟨u, stored⟩ : ∃ u, store.write (outputDir.child "hello.rombin") ⟨#[0x90, 0xF4]⟩ = .ok u :=
    ⟨_, rfl⟩
  have led : store.locate (outputDir.child "hello-vm.asm") = .ok ["build", "hello-vm.asm"] := rfl
  have tree := Store.sameTree_of_write stored
  obtain ⟨t, written⟩ := tree.exists_write led (by decide) loader.toUTF8
  have sound : store.IsSound := fun _ => rfl
  have read := finds_readText rfl
    ((Store.read_of_write_elsewhere stored locate_templatePath_ne.symm).2 there)
    (Text.Utf8.decode_toUTF8 frame)
  rw [Text.unifyLineEnds_eq_self (by decide), String.ofList_toList] at read
  have ends : Ends store (dispatch {} .vm components outputDir "hello" (some templatePath))
      (.ok (.ofMode outputDir "hello" .vm)) t := by
    refine reported.bind ((finds_isFile_of_read rfl there).bind ((finds_info _).bind ?_))
    refine generated.bind ((ends_writeBytes_of_write rfl sound stored).bind ?_)
    refine (finds_info _).bind ((finds_info _).bind (read.bind ?_))
    rw [splice_frame]
    exact (ends_writeBytes_of_write rfl (tree.isSound sound) written).bind
      ((finds_info _).bind (finds_pure _))
  obtain ⟨v, run, _⟩ := ends (w := { store }) rfl
  exact ⟨v, run⟩

end Sample

/-- The theorem applies where the program comes to two bytes. -/
theorem two_bytes_agree :
    ∃ v blob, (dispatch {} .vm Sample.components Sample.outputDir "hello"
        (some Sample.templatePath)).runIn { store := Sample.store } =
      (.ok (.ofMode Sample.outputDir "hello" .vm), v) ∧
    Sample.store.locate Sample.templatePath ≠
      Sample.store.locate (Sample.outputDir.child ("hello" ++ ".rombin")) ∧
    Sample.components.blob {} = .ok blob ∧
    v.store.read (Sample.outputDir.child ("hello" ++ ".rombin")) = .ok blob.bytes := by
  obtain ⟨v, run⟩ := Sample.exists_dispatched
  obtain ⟨_, blob, _, _, _, generated, _, stored, _⟩ :=
    vm_artifacts_agree run Sample.locate_templatePath_ne
  exact ⟨v, blob, run, Sample.locate_templatePath_ne, generated, stored⟩

end BootLink.Backend
