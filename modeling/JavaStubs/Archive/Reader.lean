import JavaStubs.Archive.Bzip2
import JavaStubs.Archive.Inflate
import JavaStubs.Archive.Lzma
import JavaStubs.Files.Fault
import JavaStubs.Text.Utf8

/-!
Reading archives. The record at the end of an archive says where its directory lies, and the
directory says where each entry lies; what is in front of the archive shifts all of these places.
`read` gives the entries of an archive, and `names` their names alone, which need no look at the
entries.
-/
namespace JavaStubs

/-- Why bytes are no archive, or an entry of one cannot be read. -/
inductive ArchiveFault where
  | noEndRecord
  | severalDisks
  | directoryPlace
  | directoryEnd
  | directoryMark
  | version (tenths : Nat)
  | extraField (kind size : Nat)
  | largeField (name : String)
  | noName (fault : Utf8.Fault)
  | entryPlace
  | entryPlaceSize
  | headerEnd
  | headerMark
  | otherName (listed : String) (found : List UInt8)
  | overlap (name : String)
  | patched
  | stronglyEncrypted
  /-- An entry that is encrypted, as it is described. -/
  | encrypted (description : String)
  /-- An entry that is encrypted and, without a name, cannot be described. -/
  | namelessEncrypted
  | unknownPacking
  | deflated (fault : Inflate.Fault)
  | sorted
  | modelled (fault : Lzma.Fault)
  | missingData
  | checksum (name : String)
  deriving Repr

namespace Archive

def quotedByte (quote : Char) (byte : UInt8) : List Char :=
  if byte < 0x7F then Text.quotedChar quote (Char.ofNat byte.toNat)
  else '\\' :: 'x' :: Hexadecimal.ofByte byte

def quotedBytes (bytes : List UInt8) : String :=
  let quote := Text.quoteFor (bytes.map fun byte => Char.ofNat byte.toNat)
  String.ofList ('b' :: quote :: (bytes.flatMap (quotedByte quote) ++ [quote]))

end Archive

/-- The wording of a fault. -/
def ArchiveFault.message : ArchiveFault → String
  | .noEndRecord => "File is not a zip file"
  | .severalDisks => "zipfiles that span multiple disks are not supported"
  | .directoryPlace => "Bad offset for central directory"
  | .directoryEnd => "Truncated central directory"
  | .directoryMark => "Bad magic number for central directory"
  | .version tenths => s!"zip file version {tenths / 10}.{tenths % 10}"
  | .extraField kind size =>
    s!"Corrupt extra field {String.ofList (UnicodeEscape.hex4 kind)} (size={size})"
  | .largeField name => s!"Corrupt zip64 extra field. {name} not found."
  | .noName fault => fault.message
  | .entryPlace => (OsFault.mk .invalid none).message
  | .entryPlaceSize => "cannot fit 'int' into an offset-sized integer"
  | .headerEnd => "Truncated file header"
  | .headerMark => "Bad magic number for file header"
  | .otherName listed found =>
    s!"File name in directory {Text.quoted listed} and header {Archive.quotedBytes found} differ."
  | .overlap name => s!"Overlapped entries: {Text.quoted name} (possible zip bomb)"
  | .patched => "compressed patched data (flag bit 5)"
  | .stronglyEncrypted => "strong encryption (flag bit 6)"
  | .encrypted description => s!"File {description} is encrypted, password required for extraction"
  | .namelessEncrypted => ""
  | .unknownPacking => "That compression method is not supported"
  | .deflated fault => fault.message
  | .sorted => "Invalid data stream"
  | .modelled fault => fault.message
  | .missingData => ""
  | .checksum name => s!"Bad CRC-32 for file {Text.quoted name}"

namespace Archive

/-! ## Records -/

/-- The number that bytes spell, the lowest first. -/
def numberOf (bytes : List UInt8) : Nat := bytes.foldr (fun byte n => 256 * n + byte.toNat) 0

/-- The number in `width` bytes at a place of a record. -/
def field (record : List UInt8) (place width : Nat) : Nat :=
  numberOf ((record.drop place).take width)

/-- Whether a record begins with the mark of its kind. -/
def isMarked (low high : UInt8) (record : List UInt8) : Bool :=
  [0x50, 0x4B, low, high].isPrefixOf record

/-- What the record at the end of an archive says: where it lies itself, how many bytes of other records
lie between it and the directory, and the size and the place of the directory. -/
structure EndRecord where
  place : Nat
  between : Nat
  size : Nat
  offset : Nat
  deriving DecidableEq, Repr

/-- The number of bytes of the record at the end, without a comment. -/
def endSize : Nat := 22

def longestComment : Nat := 65536

/-- The number of bytes of the record that says where the large record lies. -/
def locatorSize : Nat := 20

/-- The number of bytes of the large record, which gives the directory of a large archive. -/
def largeEndSize : Nat := 56

/-- The last place of bytes at which the mark of an end record lies, or else the one found before;
`place` is that of the first of the bytes. -/
def lastMark (place : Nat) (found : Option Nat) : List UInt8 → Option Nat
  | [] => found
  | byte :: rest =>
    lastMark (place + 1) (if isMarked 5 6 (byte :: rest) then some place else found) rest

/-- The place of the record at the end of an archive: at the very end when it has no comment, or else
the last one that begins where it can. -/
def endPlace? (bytes : List UInt8) : Option Nat :=
  let size := bytes.length
  if size < endSize then none
  else
    let last := bytes.drop (size - endSize)
    if isMarked 5 6 last && field last 20 2 = 0 then some (size - endSize)
    else
      let start := size - longestComment - endSize
      (lastMark start none (bytes.drop start)).filter fun place => place + endSize ≤ size

/-- The record at the end of an archive. In front of it may lie a large record, which counts in its
place, and one that says where it lies. -/
def endRecord? (bytes : List UInt8) : Except ArchiveFault (Option EndRecord) :=
  match endPlace? bytes with
  | none => .ok none
  | some place =>
    let record := bytes.drop place
    let small : EndRecord := ⟨place, 0, field record 12 4, field record 16 4⟩
    let locator := bytes.drop (place - locatorSize)
    if place < locatorSize || !isMarked 6 7 locator then .ok (some small)
    else if field locator 4 4 ≠ 0 || 1 < field locator 16 4 then .error .severalDisks
    else if place < locatorSize + largeEndSize then .ok none
    else
      let large := bytes.drop (place - locatorSize - largeEndSize)
      if isMarked 6 6 large then
        .ok (some ⟨place, locatorSize + largeEndSize, field large 40 8, field large 48 8⟩)
      else .ok (some small)

/-! ## Names -/

/-- The characters of the bytes from 128 on in names that are not marked as UTF-8. -/
def upperCharacters : String :=
  "ÇüéâäàåçêëèïîìÄÅÉæÆôöòûùÿÖÜ¢£¥₧ƒáíóúñÑªº¿⌐¬½¼¡«»░▒▓│┤╡╢╖╕╣║╗╝╜╛┐└┴┬├─┼╞╟╚╔╩╦╠═╬╧╨╤╥╙╘╒╓╫╪┘┌" ++
  "█▄▌▐▀αßΓπΣσµτΦΘΩδ∞φε∩≡±≥≤⌠⌡÷≈°∙·√ⁿ²■\u00a0"

/-- The character of a byte in a name that is not marked as UTF-8. -/
def characterOf (byte : UInt8) : Char :=
  if byte < 128 then Char.ofNat byte.toNat
  else (upperCharacters.toList[byte.toNat - 128]?).getD ' '

/-- A name, read as its marks say. -/
def nameOf (marks : Nat) (bytes : List UInt8) : Except ArchiveFault String :=
  if marks &&& 0x800 ≠ 0 then (Utf8.decode ⟨bytes.toArray⟩).mapError .noName
  else .ok (String.ofList (bytes.map characterOf))

/-! ## The directory -/

/-- What the directory says of an entry. -/
structure Listed where
  /-- The name, which may be cut when it is shown. -/
  fullName : String
  date : ArchiveDate
  marks : Nat
  packing : Nat
  attributes : Nat
  checksum : Nat
  packedSize : Nat
  size : Nat
  /-- The place as it is recorded, without what all places are shifted by. -/
  place : Nat
  deriving DecidableEq, Repr

def Listed.name (listed : Listed) : String := ArchiveEntry.cutName listed.fullName

/-- The letter for a kind of file. -/
def kindLetter : Nat → Char
  | 1 => 'p'
  | 2 => 'c'
  | 4 => 'd'
  | 6 => 'b'
  | 8 => '-'
  | 10 => 'l'
  | 12 => 's'
  | _ => '?'

/-- The letters for what three bits allow, the last of which may be marked by another bit. -/
def rightLetters (bits : Nat) (isSpecial : Bool) (mark plainMark : Char) : List Char :=
  let letter (bit : Nat) (c : Char) := if bits.testBit bit then c else '-'
  [letter 2 'r', letter 1 'w',
    if isSpecial then (if bits.testBit 0 then mark else plainMark) else letter 0 'x']

/-- A kind of file and its rights in ten letters. -/
def modeText (mode : Nat) : String :=
  String.ofList (kindLetter (mode / 4096) ::
    (rightLetters (mode / 64 % 8) (mode.testBit 11) 's' 'S' ++
     rightLetters (mode / 8 % 8) (mode.testBit 10) 's' 'S' ++
     rightLetters (mode % 8) (mode.testBit 9) 't' 'T'))

/-- The name of a way of packing. -/
def packingName : Nat → String
  | 1 => "shrink"
  | 2 => "reduce"
  | 3 => "reduce"
  | 4 => "reduce"
  | 5 => "reduce"
  | 6 => "implode"
  | 7 => "tokenize"
  | 8 => "deflate"
  | 9 => "deflate64"
  | 10 => "implode"
  | 12 => "bzip2"
  | 14 => "lzma"
  | 18 => "terse"
  | 19 => "lz77"
  | 97 => "wavpack"
  | 98 => "ppmd"
  | number => toString number

def hexText (n : Nat) : String := String.ofList (Nat.toDigits 16 n)

/-- An entry with what there is to tell of it. -/
def Listed.description (listed : Listed) : String :=
  let mode := listed.attributes / 65536
  let other := listed.attributes % 65536
  let isDirectory := listed.name.endsWith "/"
  let isStored := listed.packing = 0
  String.join (["<ZipInfo filename=" ++ Text.quoted listed.name] ++
    (if isStored then [] else [s!" compress_type={packingName listed.packing}"]) ++
    (if mode = 0 then [] else [s!" filemode={Text.quoted (modeText mode)}"]) ++
    (if other = 0 then [] else [s!" external_attr=0x{hexText other}"]) ++
    (if isDirectory && listed.size = 0 then [] else [s!" file_size={listed.size}"]) ++
    (if (isDirectory && listed.packedSize = 0) || (isStored && listed.size = listed.packedSize)
      then [] else [s!" compress_size={listed.packedSize}"]) ++ [">"])

/-- The day and the time that two numbers of sixteen bits record. -/
def dateOf (day time : Nat) : ArchiveDate :=
  ⟨day / 512 + 1980, day / 32 % 16, day % 32, time / 2048, time / 32 % 64, time % 32 * 2⟩

/-- The number of bytes of a directory record, without its texts. -/
def recordSize : Nat := 46

/-- The number that stands for one too large for its field. -/
def tooLarge : Nat := 0xFFFFFFFF

/-- The next number of eight bytes, in place of one that was too large for its field. -/
def largeNumber (name : String) (small : Nat) (isLarge : Bool) (data : List UInt8) :
    Except ArchiveFault (Nat × List UInt8) :=
  if !isLarge then .ok (small, data)
  else if data.length < 8 then .error (.largeField name)
  else .ok (field data 0 8, data.drop 8)

/-- The number that stands for one too large even for a large field. -/
def muchTooLarge : Nat := 0xFFFFFFFFFFFFFFFF

/-- The entry with the numbers that were too large for their fields. -/
def Listed.enlarged (listed : Listed) (data : List UInt8) : Except ArchiveFault Listed := do
  let (size, data) ← largeNumber "File size" listed.size
    (listed.size = tooLarge || listed.size = muchTooLarge) data
  let (packedSize, data) ←
    largeNumber "Compress size" listed.packedSize (listed.packedSize = tooLarge) data
  let (place, _) ← largeNumber "Header offset" listed.place (listed.place = tooLarge) data
  return { listed with size, packedSize, place }

/-- The entry with what its extra fields say; `fuel` is at least their number of bytes. -/
def Listed.extended : Nat → List UInt8 → Listed → Except ArchiveFault Listed
  | 0, _, listed => .ok listed
  | fuel + 1, extra, listed =>
    if extra.length < 4 then .ok listed
    else do
      let kind := field extra 0 2
      let size := field extra 2 2
      if extra.length < size + 4 then throw (.extraField kind size)
      let listed ← if kind = 1 then listed.enlarged ((extra.drop 4).take size) else pure listed
      extended fuel (extra.drop (size + 4)) listed

/-- The greatest version, in tenths, of the format that is understood. -/
def greatestVersion : Nat := 63

/-- The entry of a directory record with its texts, and the records behind it. -/
def listedOf (record : List UInt8) : Except ArchiveFault (Listed × List UInt8) := do
  let texts := record.drop recordSize
  let nameSize := field record 28 2
  let extraSize := field record 30 2
  let marks := field record 8 2
  let name ← nameOf marks (texts.take nameSize)
  let version := field record 6 1
  if greatestVersion < version then throw (.version version)
  let listed : Listed :=
    { fullName := name
      date := dateOf (field record 14 2) (field record 12 2)
      marks := marks
      packing := field record 10 2
      attributes := field record 38 4
      checksum := field record 16 4
      packedSize := field record 20 4
      size := field record 24 4
      place := field record 42 4 }
  let listed ← listed.extended extraSize ((texts.drop nameSize).take extraSize)
  return (listed, texts.drop (nameSize + extraSize + field record 32 2))

/-- The entries of directory records up to a size; `fuel` is at least their number of bytes. -/
def listedFrom : Nat → Nat → List UInt8 → Except ArchiveFault (List Listed)
  | 0, _, _ => .ok []
  | fuel + 1, size, records =>
    if size = 0 then .ok []
    else if records.length < recordSize then .error .directoryEnd
    else if !isMarked 1 2 records then .error .directoryMark
    else do
      let (listed, rest) ← listedOf records
      let length := recordSize + field records 28 2 + field records 30 2 + field records 32 2
      return listed :: (← listedFrom fuel (size - length) rest)

/-- The directory of an archive: where it lies, by how many bytes all places are shifted, and what it
lists. -/
structure Directory where
  place : Nat
  shift : Int
  entries : List Listed

def directoryOf (bytes : List UInt8) : Except ArchiveFault Directory := do
  let some record ← endRecord? bytes | throw .noEndRecord
  if record.place < record.size + record.between then throw .directoryPlace
  let start := record.place - record.size - record.between
  let records := (bytes.drop start).take record.size
  return ⟨start, (start : Int) - record.offset,
    ← listedFrom (records.length + 1) record.size records⟩

/-- The names of the entries of an archive. -/
def names (bytes : List UInt8) : Except ArchiveFault (List String) := do
  return (← directoryOf bytes).entries.map Listed.name

/-- Where an entry has to end: where the next one begins, or the directory. Of entries that begin at
one place, each has to end there but the first one listed; `index` is the place of the entry in the
list. -/
def Directory.limit (directory : Directory) (listed : Listed) (index : Nat) : Int :=
  let later := directory.entries.zipIdx.filter fun (other, place) =>
    listed.place < other.place || (listed.place = other.place && place < index)
  match (later.map (·.1.place)).min? with
  | some place => place + directory.shift
  | none => directory.place

/-! ## Entries -/

/-- The number of bytes of the header of an entry, without its texts. -/
def headerSize : Nat := 30

/-- What lies behind the header of an entry, which has to agree with the directory. `room` is how many
bytes there are for the entry with its header. -/
def behindHeader (listed : Listed) (room : Int) (header : List UInt8) :
    Except ArchiveFault (List UInt8) := do
  if header.length < headerSize then throw .headerEnd
  if !isMarked 3 4 header then throw .headerMark
  let nameSize := field header 26 2
  let found := (header.drop headerSize).take nameSize
  if listed.marks &&& 0x20 ≠ 0 then throw .patched
  if listed.marks &&& 0x40 ≠ 0 then throw .stronglyEncrypted
  if (← nameOf (field header 6 2) found) ≠ listed.fullName then
    throw (.otherName listed.fullName found)
  let size := min header.length (headerSize + nameSize + field header 28 2)
  if room < (size + listed.packedSize : Nat) then throw (.overlap listed.fullName)
  if listed.marks &&& 1 ≠ 0 then
    throw (if listed.name.isEmpty then .namelessEncrypted else .encrypted listed.description)
  return header.drop size

/-- The bytes of an entry from those behind its header, as many as there should be. -/
def unpacked (listed : Listed) (bytes : List UInt8) :
    Except ArchiveFault (Packing × ByteArray) := do
  let kept := bytes.take listed.packedSize
  let isShort := kept.length < listed.packedSize
  let finished (packing : Packing) (data : ByteArray) (isComplete : Bool) :
      Except ArchiveFault (Packing × ByteArray) :=
    if isShort && (kept.isEmpty || (!isComplete && data.size < listed.size)) then
      .error .missingData
    else .ok (packing, data.extract 0 listed.size)
  match listed.packing with
  | 0 => finished .stored ⟨kept.toArray⟩ false
  | 8 =>
    let (data, isComplete) ← (Inflate.restore kept).mapError .deflated
    finished .deflated data isComplete
  | 12 =>
    let some (data, isComplete) := Bzip2.restore kept | throw .sorted
    finished .bzip2 data isComplete
  | 14 =>
    let (data, isComplete) ← (Lzma.restore kept).mapError .modelled
    finished .lzma data isComplete
  | _ => throw .unknownPacking

/-- The number from which on places are no numbers of bytes. -/
def placeLimit : Int := 0x8000000000000000

def greatestPlace : Int := 0xFFFFFFFF000

/-- The entry that a directory lists at a place of the list. -/
def entryAt (bytes : List UInt8) (directory : Directory) (listed : Listed) (index : Nat) :
    Except ArchiveFault ArchiveEntry := do
  let place := (listed.place : Int) + directory.shift
  if place < -placeLimit || placeLimit ≤ place then throw .entryPlaceSize
  if place < 0 || greatestPlace < place then throw .entryPlace
  let room := directory.limit listed index - place
  let (packing, data) ← unpacked listed
    (← behindHeader listed room (bytes.drop place.toNat))
  if (Crc32.ofBytes data).toNat ≠ listed.checksum then throw (.checksum listed.name)
  return ⟨listed.name, listed.date, packing, listed.attributes, data⟩

def read (bytes : List UInt8) : Except ArchiveFault (List ArchiveEntry) := do
  let directory ← directoryOf bytes
  directory.entries.zipIdx.mapM fun (listed, index) => entryAt bytes directory listed index

end Archive
end JavaStubs
