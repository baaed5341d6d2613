/-
# `BootLink.Proofs.Image.Disk` — what stands on the disk, byte by byte

    sectorCode raw     the first 510 bytes of a program, filled up with zeros
    Packs raw image    the law of the disk: its size, each of its bytes, and what is noted of `raw`

An image is the code of the sector, the signature, and zeros (`toList_data_ofBinary`), so two
programs have one image just when their sectors have the same code (`data_ofBinary_eq_iff`).

A list that starts with the code of a sector has that code itself (`sectorCode_eq_of_append`).  That
is why packaging stops at once when it is fed with its own result: whatever of an image follows the
code is put there again.  The signature is written over the end of the sector, behind the code, so
it does not matter what stood there.
-/
import BootLink.BootImage

namespace BootLink.BootImage

variable {raw raw' : ByteArray} {i : Nat}

/-- The first 510 bytes of a program, with zeros for those that it lacks. -/
def sectorCode (raw : ByteArray) : List UInt8 :=
  (raw.data.toList.take signatureOffset).rightpad signatureOffset 0

/-- The image of a program: where each byte comes from, and what is noted. -/
structure Packs (raw : ByteArray) (image : BootImage) : Prop where
  size : image.data.size = 1474560
  code : ∀ i < min 510 raw.size, image.data.data[i]? = raw.data[i]?
  signature : image.data.data[510]? = some 0x55 ∧ image.data.data[511]? = some 0xAA
  rest : ∀ i < 1474560, min 510 raw.size ≤ i → i ≠ 510 → i ≠ 511 → image.data.data[i]? = some 0
  bootCodeSize : image.bootCodeSize = raw.size
  truncated : image.truncated = true ↔ 512 < raw.size

/-! ## The code of a sector -/

theorem length_sectorCode (raw : ByteArray) : (sectorCode raw).length = signatureOffset := by
  rw [sectorCode, List.length_rightpad, List.length_take]
  omega

theorem getElem?_sectorCode (h : i < signatureOffset) :
    (sectorCode raw)[i]? = some (raw.data[i]?.getD 0) := by
  rw [sectorCode, List.rightpad, List.getElem?_append, List.length_take, Array.length_toList]
  split
  · next inside =>
    have here : i < raw.data.size := by omega
    rw [List.getElem?_take_of_lt h, Array.getElem?_toList, Array.getElem?_eq_getElem here]
    rfl
  · next behind =>
    have absent : raw.data.size ≤ i := by omega
    rw [List.getElem?_replicate, if_pos (by omega), Array.getElem?_eq_none absent]
    rfl

/-- What starts with the code of a sector has this code, whatever follows. -/
theorem sectorCode_eq_of_append {rest : List UInt8}
    (h : raw'.data.toList = sectorCode raw ++ rest) : sectorCode raw' = sectorCode raw := by
  have first : raw'.data.toList.take signatureOffset = sectorCode raw := by
    rw [h, List.take_append_of_le_length (Nat.le_of_eq (length_sectorCode raw).symm),
      ← length_sectorCode raw, List.take_length]
  rw [sectorCode, first, List.rightpad, length_sectorCode, Nat.sub_self, List.replicate_zero,
    List.append_nil]

/-! ## The image -/

/-- What stands behind the code. -/
def behindCode : List UInt8 :=
  bootSignature.data.toList ++ List.replicate (floppySize - sectorSize) 0

theorem toList_extract (bytes : ByteArray) (start stop : Nat) :
    (bytes.extract start stop).data.toList =
      (bytes.data.toList.drop start).take (stop - start) := by
  rw [ByteArray.data_extract, Array.toList_extract, List.extract_eq_take_drop]

theorem toList_overwrite (buffer part : ByteArray) (offset : Nat) :
    (overwrite buffer offset part).data.toList =
      buffer.data.toList.take offset ++ part.data.toList ++
        buffer.data.toList.drop (offset + part.size) := by
  have all : (buffer.data.toList.drop (offset + part.size)).take
      (buffer.size - (offset + part.size)) = buffer.data.toList.drop (offset + part.size) := by
    apply List.take_of_length_le
    rw [List.length_drop, Array.length_toList]
    exact Nat.le_refl _
  rw [overwrite, ByteArray.data_append, ByteArray.data_append, Array.toList_append,
    Array.toList_append, toList_extract, toList_extract, List.drop_zero, Nat.sub_zero, all]

/-- An empty disk with the first sector of a program on it. -/
theorem toList_disk (raw : ByteArray) :
    (overwrite (zeros floppySize) 0 (raw.extract 0 sectorSize)).data.toList =
      raw.data.toList.take sectorSize ++
        List.replicate (floppySize - (raw.extract 0 sectorSize).size) 0 := by
  rw [toList_overwrite, toList_extract, List.take_zero, List.nil_append, List.drop_zero,
    Nat.sub_zero, Nat.zero_add, zeros, Array.toList_replicate, List.drop_replicate]

/-- **An image is the code, the signature, and zeros.** -/
theorem toList_data_ofBinary (raw : ByteArray) :
    (ofBinary raw).data.data.toList = sectorCode raw ++ behindCode := by
  have size : (raw.extract 0 sectorSize).size = (raw.data.toList.take sectorSize).length := by
    rw [ByteArray.size_extract, List.length_take, Array.length_toList]
    exact Nat.sub_zero _
  have short : (raw.data.toList.take sectorSize).length ≤ sectorSize := List.length_take_le _ _
  have code : (raw.data.toList.take sectorSize ++
      List.replicate (floppySize - (raw.extract 0 sectorSize).size) 0).take signatureOffset =
      sectorCode raw := by
    have filled : min (signatureOffset - (raw.data.toList.take sectorSize).length)
        (floppySize - (raw.data.toList.take sectorSize).length) =
        signatureOffset - (raw.data.toList.take signatureOffset).length := by
      have order : signatureOffset ≤ sectorSize ∧ sectorSize ≤ floppySize := by decide
      rw [List.length_take, List.length_take]
      omega
    rw [List.take_append, List.take_take, List.take_replicate, size, filled]
    rfl
  have rest : (raw.data.toList.take sectorSize ++
      List.replicate (floppySize - (raw.extract 0 sectorSize).size) 0).drop sectorSize =
      List.replicate (floppySize - sectorSize) (0 : UInt8) := by
    rw [List.drop_append, List.drop_eq_nil_of_le short, List.nil_append, List.drop_replicate, size]
    congr 1
    omega
  have behind : signatureOffset + bootSignature.size = sectorSize := rfl
  rw [ofBinary, toList_overwrite, toList_disk, behind, code, rest, behindCode, List.append_assoc]

theorem getElem?_data_ofBinary (raw : ByteArray) (i : Nat) :
    (ofBinary raw).data.data[i]? =
      if i < signatureOffset then some (raw.data[i]?.getD 0)
      else behindCode[i - signatureOffset]? := by
  rw [← Array.getElem?_toList, toList_data_ofBinary, List.getElem?_append, length_sectorCode]
  split
  · next inside => exact getElem?_sectorCode inside
  · rfl

theorem data_eq_of_toList {a b : ByteArray} (h : a.data.toList = b.data.toList) : a = b :=
  ByteArray.ext (Array.ext' h)

/-- **Two programs have one image just when their sectors have the same code.** -/
theorem data_ofBinary_eq_iff :
    (ofBinary raw).data = (ofBinary raw').data ↔ sectorCode raw = sectorCode raw' := by
  constructor
  · intro same
    have lists := congrArg (fun bytes : ByteArray => bytes.data.toList) same
    rw [toList_data_ofBinary, toList_data_ofBinary] at lists
    exact (List.append_inj lists (by rw [length_sectorCode, length_sectorCode])).1
  · intro same
    apply data_eq_of_toList
    rw [toList_data_ofBinary, toList_data_ofBinary, same]

/-- The boot sector of an image is the code with the signature. -/
theorem toList_bootSector (raw : ByteArray) :
    (ofBinary raw).bootSector.data.toList = sectorCode raw ++ bootSignature.data.toList := by
  have sector : sectorSize = (sectorCode raw ++ bootSignature.data.toList).length := by
    rw [List.length_append, length_sectorCode]
    rfl
  rw [bootSector, ByteArray.data_extract, Array.toList_extract, List.extract_eq_take_drop,
    List.drop_zero, Nat.sub_zero, toList_data_ofBinary, behindCode, ← List.append_assoc,
    List.take_append_of_le_length (Nat.le_of_eq sector), sector, List.take_length]

theorem size_bootSector (raw : ByteArray) : (ofBinary raw).bootSector.size = sectorSize := by
  show (ofBinary raw).bootSector.data.size = sectorSize
  rw [← Array.length_toList, toList_bootSector, List.length_append, length_sectorCode]
  rfl

/-! ## The law -/

theorem packs_ofBinary (raw : ByteArray) : Packs raw (ofBinary raw) where
  size := size_data_ofBinary raw
  code i inside := by
    have here : i < raw.data.size := Nat.lt_of_lt_of_le inside (Nat.min_le_right 510 raw.size)
    have code : i < signatureOffset := Nat.lt_of_lt_of_le inside (Nat.min_le_left 510 raw.size)
    rw [getElem?_data_ofBinary, if_pos code, Array.getElem?_eq_getElem here]
    rfl
  signature := by
    rw [getElem?_data_ofBinary, getElem?_data_ofBinary]
    exact ⟨rfl, rfl⟩
  rest i inside behind first second := by
    rw [getElem?_data_ofBinary]
    split
    · next code =>
      have absent : raw.data.size ≤ i := by
        change min 510 raw.data.size ≤ i at behind
        change i < 510 at code
        omega
      rw [Array.getElem?_eq_none absent]
      rfl
    · next code =>
      have place : bootSignature.data.toList.length ≤ i - signatureOffset ∧
          i - signatureOffset - bootSignature.data.toList.length < floppySize - sectorSize := by
        change 2 ≤ i - 510 ∧ i - 510 - 2 < 1440 * 1024 - 512
        change ¬i < 510 at code
        omega
      rw [behindCode, List.getElem?_append_right place.1, List.getElem?_replicate, if_pos place.2]
  bootCodeSize := rfl
  truncated := decide_eq_true_iff

/-- **The law of the disk.**  A program of any length is packed as `Packs` says.  Two programs give
the same bytes just when their first 510 bytes do, filled up with zeros.  Packaging the boot sector
of an image, or all of it, gives its bytes back; only the second is too long. -/
theorem boot_image_law (raw : ByteArray) :
    Packs raw (ofBinary raw) ∧
    (∀ raw', (ofBinary raw).data = (ofBinary raw').data ↔ sectorCode raw = sectorCode raw') ∧
    ((ofBinary (ofBinary raw).bootSector).data = (ofBinary raw).data ∧
      (ofBinary (ofBinary raw).bootSector).truncated = false) ∧
    (ofBinary (ofBinary raw).data).data = (ofBinary raw).data ∧
      (ofBinary (ofBinary raw).data).truncated = true := by
  refine ⟨packs_ofBinary raw, fun raw' => data_ofBinary_eq_iff, ⟨?_, ?_⟩, ?_, ?_⟩
  · exact data_ofBinary_eq_iff.2 (sectorCode_eq_of_append (toList_bootSector raw))
  · rw [Bool.eq_false_iff, ne_eq, (packs_ofBinary _).truncated, size_bootSector]
    exact Nat.lt_irrefl 512
  · exact data_ofBinary_eq_iff.2 (sectorCode_eq_of_append (toList_data_ofBinary raw))
  · rw [(packs_ofBinary _).truncated, size_data_ofBinary]
    decide

namespace Sample

/-- A program that does nothing, again and again. -/
def nops (n : Nat) : ByteArray := ⟨Array.replicate n 0x90⟩

theorem sectorCode_nops {n : Nat} (h : signatureOffset ≤ n) :
    sectorCode (nops n) = List.replicate signatureOffset 0x90 := by
  have whole : (nops n).data.toList.take signatureOffset = List.replicate signatureOffset 0x90 := by
    rw [nops, Array.toList_replicate, List.take_replicate, Nat.min_eq_left h]
  rw [sectorCode, whole, List.rightpad, List.length_replicate, Nat.sub_self, List.replicate_zero,
    List.append_nil]

end Sample

/-- A program of 511 bytes is not too long, and yet its last byte is not on the disk: without it the
image is the same. -/
theorem last_byte_gives_way :
    509 < min 510 (Sample.nops 511).size ∧
    (ofBinary (Sample.nops 511)).data.data[509]? = some 0x90 ∧
    (ofBinary (Sample.nops 511)).data.data[510]? = some 0x55 ∧
    (ofBinary (Sample.nops 511)).truncated = false ∧
    (ofBinary (Sample.nops 511)).data = (ofBinary (Sample.nops 510)).data := by
  obtain ⟨packs, same_iff, -⟩ := boot_image_law (Sample.nops 511)
  have size : (Sample.nops 511).size = 511 := Array.size_replicate
  have inside : 509 < min 510 (Sample.nops 511).size := by
    rw [size]
    decide
  refine ⟨inside, ?_, packs.signature.1, ?_, ?_⟩
  · rw [packs.code 509 inside]
    exact Array.getElem?_replicate
  · rw [Bool.eq_false_iff, ne_eq, packs.truncated, size]
    decide
  · rw [same_iff, Sample.sectorCode_nops (by decide), Sample.sectorCode_nops (by decide)]

end BootLink.BootImage
