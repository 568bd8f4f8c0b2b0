import JavaStubs.Text.Words

/-!
Archives: sequences of named entries in the ZIP format. Two entries may share a name. The entries
that `packed` makes carry a fixed date and fixed attributes, so the same additions always give the
same archive.
-/
namespace JavaStubs

/-- A calendar day and a time of day, as archives record them. -/
structure ArchiveDate where
  year : Nat
  month : Nat
  day : Nat
  hour : Nat
  minute : Nat
  second : Nat
  deriving DecidableEq, Repr

/-- The first moment that archives can record. -/
def ArchiveDate.first : ArchiveDate := ⟨1980, 1, 1, 0, 0, 0⟩

/-- How the bytes of an entry are kept. -/
inductive Packing where
  | stored
  | deflated
  | bzip2
  | lzma
  deriving DecidableEq, Repr

/-- The number of a way of packing. -/
def Packing.number : Packing → Nat
  | .stored => 0
  | .deflated => 8
  | .bzip2 => 12
  | .lzma => 14

/-- An entry of an archive. -/
structure ArchiveEntry where
  name : String
  date : ArchiveDate
  packing : Packing
  attributes : Nat
  data : ByteArray

/-- Entries are equal if they agree in all that they record. -/
instance : DecidableEq ArchiveEntry := fun a b =>
  decidable_of_iff (a.name = b.name ∧ a.date = b.date ∧ a.packing = b.packing ∧
      a.attributes = b.attributes ∧ a.data.data = b.data.data) <| by
    cases a
    cases b
    simp [ByteArray.ext_iff]

namespace ArchiveEntry

/-- The attributes of a file that its owner may change and everybody may read. -/
def readableFile : Nat := 0o644 * 65536

/-- The attributes of a file that only its owner may read and change. -/
def privateFile : Nat := 0o600 * 65536

/-- A name up to its first NUL character, which no entry name can hold. -/
def cutName (name : String) : String := String.ofList (name.toList.takeWhile (· != '\x00'))

/-- The entry that a file with given bytes becomes. In its name every backslash is a separator. -/
def packed (name : String) (data : ByteArray) : ArchiveEntry where
  name := cutName (Text.replaced (· == '\\') '/' name)
  date := .first
  packing := .deflated
  attributes := readableFile
  data := data

/-- The entry of a text that is kept as it is. -/
def plain (name text : String) : ArchiveEntry where
  name := cutName name
  date := .first
  packing := .stored
  attributes := privateFile
  data := text.toUTF8

end ArchiveEntry

/-! ## Checksums -/

namespace Crc32

/-- One step of the division by the reflected polynomial of the checksum. -/
def shift (remainder : UInt32) : UInt32 :=
  if remainder &&& 1 == 1 then (remainder >>> 1) ^^^ 0xEDB88320 else remainder >>> 1

def step (remainder : UInt32) (byte : UInt8) : UInt32 :=
  Nat.repeat shift 8 (remainder ^^^ byte.toUInt32)

/-- The checksum of a sequence of bytes. -/
def ofBytes (bytes : ByteArray) : UInt32 :=
  (bytes.toList.foldl step 0xFFFFFFFF) ^^^ 0xFFFFFFFF

end Crc32
end JavaStubs
