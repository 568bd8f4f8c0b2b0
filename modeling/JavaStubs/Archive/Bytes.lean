import JavaStubs.Archive.Deflate

/-!
The bytes of an archive in the ZIP format: each entry behind its header, then the directory of all
entries, then the record that says where the directory lies.
-/
namespace JavaStubs.Archive

/-- A number in `width` bytes, the lowest first. -/
def littleEndian : Nat → Nat → List UInt8
  | 0, _ => []
  | width + 1, n => UInt8.ofNat (n % 256) :: littleEndian width (n / 256)

/-- The bytes of an entry as they are kept. Entries that are written are stored or deflated. -/
def packedBytes (entry : ArchiveEntry) : List UInt8 :=
  match entry.packing with
  | .deflated => Deflate.compress entry.data
  | _ => entry.data.toList

/-- The mark that a name is not in ASCII. -/
def nameMark (name : String) : Nat := if name.toList.all (·.toNat < 128) then 0 else 0x800

/-- The part of an entry's header that its directory record repeats. -/
def commonHeader (entry : ArchiveEntry) : List UInt8 :=
  let date := entry.date
  littleEndian 2 20 ++ littleEndian 2 (nameMark entry.name) ++
    littleEndian 2 entry.packing.number ++
    littleEndian 2 (date.hour * 2048 + date.minute * 32 + date.second / 2) ++
    littleEndian 2 ((date.year - 1980) * 512 + date.month * 32 + date.day) ++
    littleEndian 4 (Crc32.ofBytes entry.data).toNat ++
    littleEndian 4 (packedBytes entry).length ++ littleEndian 4 entry.data.size ++
    littleEndian 2 entry.name.utf8ByteSize ++ littleEndian 2 0

def localRecord (entry : ArchiveEntry) : List UInt8 :=
  [0x50, 0x4B, 3, 4] ++ commonHeader entry ++ entry.name.toUTF8.toList ++ packedBytes entry

/-- The directory record of an entry that lies at a place. -/
def directoryRecord (entry : ArchiveEntry) (place : Nat) : List UInt8 :=
  [0x50, 0x4B, 1, 2, 20, 3] ++ commonHeader entry ++ littleEndian 2 0 ++ littleEndian 2 0 ++
    littleEndian 2 0 ++ littleEndian 4 entry.attributes ++ littleEndian 4 place ++
    entry.name.toUTF8.toList

/-- The directory records of entries that lie one after another from a place on. -/
def directory : Nat → List ArchiveEntry → List UInt8
  | _, [] => []
  | place, entry :: rest =>
    directoryRecord entry place ++ directory (place + (localRecord entry).length) rest

/-- The entries behind their headers, which is what there is of an archive that is not complete. -/
def recordBytes (entries : List ArchiveEntry) : ByteArray :=
  ⟨(entries.flatMap localRecord).toArray⟩

def toBytes (entries : List ArchiveEntry) : ByteArray :=
  let records := entries.flatMap localRecord
  let listed := directory 0 entries
  ⟨(records ++ listed ++ [0x50, 0x4B, 5, 6] ++ littleEndian 4 0 ++
    littleEndian 2 entries.length ++ littleEndian 2 entries.length ++
    littleEndian 4 listed.length ++ littleEndian 4 records.length ++ littleEndian 2 0).toArray⟩

end JavaStubs.Archive
