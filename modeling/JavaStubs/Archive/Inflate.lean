import JavaStubs.Archive.Basic

/-!
Restoring deflated bytes. Deflated data is a sequence of bits, the lowest bit of each byte first, that
holds blocks: bytes as they are, or symbols in a canonical Huffman code, where a symbol stands for a
byte or for a piece of what was restored before. `Inflate.restore` gives what the data holds as far
as it is complete.
-/
namespace JavaStubs.Inflate

/-- What is wrong with deflated data. -/
inductive Fault where
  | blockKind
  | storedLength
  | tooManyCodes
  | codeLengths
  | lengthRepeat
  | noBlockEnd
  | literalCodes
  | distanceCodes
  | noLiteral
  | noDistance
  | tooFarBack
  deriving DecidableEq, Repr

/-- The wording of a fault. -/
def Fault.message (fault : Fault) : String :=
  "Error -3 while decompressing data: " ++
    match fault with
    | .blockKind => "invalid block type"
    | .storedLength => "invalid stored block lengths"
    | .tooManyCodes => "too many length or distance symbols"
    | .codeLengths => "invalid code lengths set"
    | .lengthRepeat => "invalid bit length repeat"
    | .noBlockEnd => "invalid code -- missing end-of-block"
    | .literalCodes => "invalid literal/lengths set"
    | .distanceCodes => "invalid distances set"
    | .noLiteral => "invalid literal/length code"
    | .noDistance => "invalid distance code"
    | .tooFarBack => "invalid distance too far back"

/-- Why restoring stops: at a fault, or because there are no more bits. -/
inductive Stop where
  | fault (fault : Fault)
  | exhausted
  deriving DecidableEq, Repr

/-- What was read and the bits that follow. -/
abbrev Taken (α : Type) := α × List Bool

/-! ## Bits -/

/-- The bits of a byte, the lowest first. -/
def bitsOfByte (byte : UInt8) : List Bool := (List.range 8).map byte.toNat.testBit

def bitsOf (bytes : List UInt8) : List Bool := bytes.flatMap bitsOfByte

/-- The number that bits spell, the lowest first. -/
def number (bits : List Bool) : Nat :=
  bits.foldr (fun bit n => 2 * n + (if bit then 1 else 0)) 0

def takeNumber (count : Nat) (bits : List Bool) : Except Stop (Taken Nat) :=
  let taken := bits.take count
  if taken.length < count then .error .exhausted else .ok (number taken, bits.drop count)

/-! ## Codes -/

/-- A canonical code: how many code words there are of each length from one on, and the symbols in the
order of their code words. -/
structure Code where
  counts : List Nat
  symbols : Array Nat
  deriving Repr

def longest : Nat := 15

/-- The code in which the symbol at each place has a code word of the given length; zero stands for
none. -/
def Code.ofLengths (lengths : List Nat) : Code :=
  let ofLength (n : Nat) := (lengths.zipIdx.filter (·.1 = n)).map Prod.snd
  let groups := ((List.range longest).map (· + 1)).map ofLength
  ⟨groups.map List.length, groups.flatten.toArray⟩

/-- The places that the code words of each length leave free, if there are enough for them. -/
def Code.free? (code : Code) : Option Nat :=
  code.counts.foldl (fun free count => free.bind fun n =>
    if 2 * n < count then none else some (2 * n - count)) (some 1)

/-- Whether a code says what every sequence of bits stands for; a code of a single word of one bit, or
of none at all, may be taken without. -/
def Code.isUsable (code : Code) (lenient : Bool) : Bool :=
  match code.free? with
  | none => false
  | some free =>
    free = 0 || code.symbols.isEmpty || (lenient && (code.counts.drop 1).all (· = 0))

/-- The symbol whose code word bits begin with. `word` is the number of the bits so far, `first` that of
the first code word of their length, and `index` the place of its symbol. -/
def symbolFrom (code : Code) : List Nat → Nat → Nat → Nat → List Bool →
    Except Stop (Taken (Option Nat))
  | [], _, _, _, bits => .ok (none, bits)
  | _, _, _, _, [] => .error .exhausted
  | count :: counts, word, first, index, bit :: bits =>
    let word := 2 * word + (if bit then 1 else 0)
    let first := 2 * first
    if word < first + count then .ok (code.symbols[index + (word - first)]?, bits)
    else symbolFrom code counts word (first + count) (index + count) bits

/-- The symbol that bits begin with; a fault if they begin with no code word. -/
def Code.symbol (code : Code) (fault : Fault) (bits : List Bool) : Except Stop (Taken Nat) := do
  match ← symbolFrom code code.counts 0 0 0 bits with
  | (some symbol, after) => return (symbol, after)
  | (none, _) => throw (.fault fault)

/-! ## Pieces -/

/-- The least length of a piece for each symbol, and how many more bits add to it. -/
def pieceLengths : List (Nat × Nat) :=
  [(3, 0), (4, 0), (5, 0), (6, 0), (7, 0), (8, 0), (9, 0), (10, 0), (11, 1), (13, 1), (15, 1),
   (17, 1), (19, 2), (23, 2), (27, 2), (31, 2), (35, 3), (43, 3), (51, 3), (59, 3), (67, 4),
   (83, 4), (99, 4), (115, 4), (131, 5), (163, 5), (195, 5), (227, 5), (258, 0)]

/-- The least distance of a piece for each symbol, and how many more bits add to it. -/
def pieceDistances : List (Nat × Nat) :=
  [(1, 0), (2, 0), (3, 0), (4, 0), (5, 1), (7, 1), (9, 2), (13, 2), (17, 3), (25, 3), (33, 4),
   (49, 4), (65, 5), (97, 5), (129, 6), (193, 6), (257, 7), (385, 7), (513, 8), (769, 8),
   (1025, 9), (1537, 9), (2049, 10), (3073, 10), (4097, 11), (6145, 11), (8193, 12), (12289, 12),
   (16385, 13), (24577, 13)]

/-- The number that a symbol and the bits behind it give. -/
def measure (table : List (Nat × Nat)) (symbol : Nat) (fault : Fault) (bits : List Bool) :
    Except Stop (Taken Nat) := do
  let some (least, more) := table[symbol]? | throw (.fault fault)
  let (extra, bits) ← takeNumber more bits
  return (least + extra, bits)

/-- Bytes with a piece of some length repeated from a distance before their end. -/
def repeated (distance : Nat) : Nat → ByteArray → ByteArray
  | 0, done => done
  | length + 1, done =>
    repeated distance length (done.push (done.data[done.size - distance]?.getD 0))

/-! ## Blocks -/

/-- What was restored, and how restoring a part ended: with the bits that follow, or before. -/
structure Progress where
  done : ByteArray
  rest : Except Stop (List Bool)

def blockEnd : Nat := 256

/-- The symbols of a block up to its end; `fuel` is more than the number of bits. -/
def restoreSymbols (literals distances : Code) : Nat → ByteArray → List Bool → Progress
  | 0, done, _ => ⟨done, .error .exhausted⟩
  | fuel + 1, done, bits =>
    match literals.symbol .noLiteral bits with
    | .error stop => ⟨done, .error stop⟩
    | .ok (symbol, bits) =>
      if symbol < blockEnd then
        restoreSymbols literals distances fuel (done.push (UInt8.ofNat symbol)) bits
      else if symbol = blockEnd then ⟨done, .ok bits⟩
      else
        let piece : Except Stop (Nat × Nat × List Bool) := do
          let (length, bits) ← measure pieceLengths (symbol - blockEnd - 1) .noLiteral bits
          let (symbol, bits) ← distances.symbol .noDistance bits
          let (distance, bits) ← measure pieceDistances symbol .noDistance bits
          if done.size < distance then throw (.fault .tooFarBack)
          return (length, distance, bits)
        match piece with
        | .error stop => ⟨done, .error stop⟩
        | .ok (length, distance, bits) =>
          restoreSymbols literals distances fuel (repeated distance length done) bits

/-- The code of literals that needs no description. -/
def fixedLiterals : Code := Code.ofLengths
  (List.replicate 144 8 ++ List.replicate 112 9 ++ List.replicate 24 7 ++ List.replicate 8 8)

/-- The code of distances that needs no description. -/
def fixedDistances : Code := Code.ofLengths (List.replicate 32 5)

/-- The order in which the lengths of the code for lengths are described. -/
def lengthOrder : List Nat := [16, 17, 18, 0, 8, 7, 9, 6, 10, 5, 11, 4, 12, 3, 13, 2, 14, 1, 15]

def takeLengths : Nat → List Bool → Except Stop (Taken (List Nat))
  | 0, bits => .ok ([], bits)
  | count + 1, bits => do
    let (length, bits) ← takeNumber 3 bits
    let (lengths, bits) ← takeLengths count bits
    return (length :: lengths, bits)

/-- The lengths of `count` code words behind those in `done`, latest first; `fuel` is at least
`count`. -/
def describedLengths (code : Code) (count : Nat) : Nat → List Nat → List Bool → Except Stop (Taken (List Nat))
  | 0, done, bits => .ok (done.reverse, bits)
  | fuel + 1, done, bits =>
    if count ≤ done.length then .ok (done.reverse, bits)
    else do
      let (symbol, bits) ←
        if code.symbols.isEmpty then do
          let (_, bits) ← takeNumber 1 bits
          pure (0, bits)
        else code.symbol .codeLengths bits
      if symbol < 16 then describedLengths code count fuel (symbol :: done) bits
      else
        let (least, width) := if symbol = 16 then (3, 2) else if symbol = 17 then (3, 3) else (11, 7)
        let (extra, bits) ← takeNumber width bits
        let copies := least + extra
        if (symbol = 16 && done.isEmpty) || count < done.length + copies then
          throw (.fault .lengthRepeat)
        let length := if symbol = 16 then done.head?.getD 0 else 0
        describedLengths code count fuel (List.replicate copies length ++ done) bits

/-- The two codes that a block describes. -/
def describedCodes (bits : List Bool) : Except Stop (Taken (Code × Code)) := do
  let (literalCount, bits) ← takeNumber 5 bits
  let (distanceCount, bits) ← takeNumber 5 bits
  let (lengthCount, bits) ← takeNumber 4 bits
  let literalCount := literalCount + 257
  let distanceCount := distanceCount + 1
  if 286 < literalCount || 30 < distanceCount then throw (.fault .tooManyCodes)
  let (found, bits) ← takeLengths (lengthCount + 4) bits
  let described := lengthOrder.zip found
  let code := Code.ofLengths ((List.range 19).map fun symbol => (described.lookup symbol).getD 0)
  if !code.isUsable false then throw (.fault .codeLengths)
  let count := literalCount + distanceCount
  let (lengths, bits) ← describedLengths code count count [] bits
  if lengths[blockEnd]?.getD 0 = 0 then throw (.fault .noBlockEnd)
  let literals := Code.ofLengths (lengths.take literalCount)
  if !literals.isUsable true then throw (.fault .literalCodes)
  let distances := Code.ofLengths (lengths.drop literalCount)
  if !distances.isUsable true then throw (.fault .distanceCodes)
  return ((literals, distances), bits)

/-- The bytes of a block without compression; `size` is the number of all bits, of which those in
front of the next whole byte are left out. -/
def restoreStored (size : Nat) (done : ByteArray) (bits : List Bool) : Progress :=
  let bits := bits.drop ((8 - (size - bits.length) % 8) % 8)
  let described : Except Stop (Taken Nat) := do
    let (length, bits) ← takeNumber 16 bits
    let (check, bits) ← takeNumber 16 bits
    if length + check ≠ 65535 then throw (.fault .storedLength)
    return (length, bits)
  match described with
  | .error stop => ⟨done, .error stop⟩
  | .ok (length, bits) =>
    let rec bytes : Nat → ByteArray → List Bool → Progress
      | 0, done, bits => ⟨done, .ok bits⟩
      | count + 1, done, bits =>
        match takeNumber 8 bits with
        | .error stop => ⟨done, .error stop⟩
        | .ok (byte, bits) => bytes count (done.push (UInt8.ofNat byte)) bits
    bytes length done bits

/-- A block of a kind. -/
def restoreBlock (size kind : Nat) (done : ByteArray) (bits : List Bool) : Progress :=
  match kind with
  | 0 => restoreStored size done bits
  | 1 => restoreSymbols fixedLiterals fixedDistances (bits.length + 1) done bits
  | 2 =>
    match describedCodes bits with
    | .error stop => ⟨done, .error stop⟩
    | .ok ((literals, distances), bits) =>
      restoreSymbols literals distances (bits.length + 1) done bits
  | _ => ⟨done, .error (.fault .blockKind)⟩

/-- Blocks up to the last one; `fuel` is at least the number of bits. -/
def restoreBlocks (size : Nat) : Nat → ByteArray → List Bool → Progress
  | 0, done, _ => ⟨done, .error .exhausted⟩
  | fuel + 1, done, bits =>
    match takeNumber 3 bits with
    | .error stop => ⟨done, .error stop⟩
    | .ok (mark, bits) =>
      let after := restoreBlock size (mark / 2) done bits
      if mark % 2 = 1 then after
      else match after.rest with
        | .error _ => after
        | .ok bits => restoreBlocks size fuel after.done bits

/-- The bytes that deflated data holds as far as it is complete, and whether it is. -/
def restore (data : List UInt8) : Except Fault (ByteArray × Bool) :=
  let bits := bitsOf data
  let progress := restoreBlocks bits.length (bits.length + 1) .empty bits
  match progress.rest with
  | .ok _ => .ok (progress.done, true)
  | .error .exhausted => .ok (progress.done, false)
  | .error (.fault fault) => .error fault

end JavaStubs.Inflate
