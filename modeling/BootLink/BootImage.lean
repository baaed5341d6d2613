/-
# `BootLink.BootImage` — a floppy image that firmware can boot

The image has the size of a floppy disk. Its first sector holds the program's first 510 bytes and
ends with the boot signature; everything else is zero. A program longer than the sector is cut, and
the image remembers it.
-/

namespace BootLink

/-- An image, the size of the program it was made from, and whether that was too long. -/
structure BootImage where
  data : ByteArray
  bootCodeSize : Int
  truncated : Bool := false

namespace BootImage

/-- The size of the disk: 1440 kilobytes. -/
def floppySize : Nat := 1440 * 1024

/-- The size of the boot sector. -/
def sectorSize : Nat := 512

/-- Where the boot signature stands. -/
def signatureOffset : Nat := 510

/-- The two bytes that make a sector bootable. -/
def bootSignature : ByteArray := ⟨#[0x55, 0xAA]⟩

/-- A run of zeros. -/
def zeros (n : Nat) : ByteArray := ⟨Array.replicate n 0⟩

/-- The first sector of an image. -/
def bootSector (image : BootImage) : ByteArray := image.data.extract 0 sectorSize

/-- What stands where the boot signature belongs. -/
def signature (image : BootImage) : ByteArray := image.data.extract signatureOffset sectorSize

/-- Bytes with some of them overwritten, from an offset on. -/
def overwrite (buffer : ByteArray) (offset : Nat) (part : ByteArray) : ByteArray :=
  buffer.extract 0 offset ++ part ++ buffer.extract (offset + part.size) buffer.size

/-- The image of a program: its first sector on an empty disk, and the signature over the end of
the sector. -/
def ofBinary (raw : ByteArray) : BootImage :=
  let disk := overwrite (zeros floppySize) 0 (raw.extract 0 sectorSize)
  { data := overwrite disk signatureOffset bootSignature
    bootCodeSize := raw.size
    truncated := raw.size > sectorSize }

theorem size_zeros (n : Nat) : (zeros n).size = n := by
  simp [zeros, ByteArray.size]

/-- What is overwritten keeps its size, if it has room for the new part. -/
theorem size_overwrite {buffer part : ByteArray} {offset : Nat}
    (fits : offset + part.size ≤ buffer.size) :
    (overwrite buffer offset part).size = buffer.size := by
  simp only [overwrite, ByteArray.size_append, ByteArray.size_extract]
  omega

/-- An image has the size of the disk, whatever the program. -/
theorem size_data_ofBinary (raw : ByteArray) : (ofBinary raw).data.size = floppySize := by
  have sector : 0 + (raw.extract 0 sectorSize).size ≤ (zeros floppySize).size := by
    have room : sectorSize ≤ floppySize := by decide
    rw [size_zeros, ByteArray.size_extract]
    omega
  have disk : (overwrite (zeros floppySize) 0 (raw.extract 0 sectorSize)).size = floppySize := by
    rw [size_overwrite sector, size_zeros]
  have signed : signatureOffset + bootSignature.size ≤ floppySize := by decide
  rw [ofBinary, size_overwrite (by rwa [disk]), disk]

/-- What packaging a program that is too long reports. -/
def truncationNote (size : Nat) : String :=
  "Boot sector is larger than " ++ toString sectorSize ++ " bytes (" ++ toString size ++
    " bytes); " ++ toString (size - sectorSize) ++ " bytes discarded"

end BootImage

end BootLink
