import JavaStubs.Archive.Basic

/-!
Restoring bytes that were packed by sorting. Packed data is a sequence of bits, the highest bit of each
byte first, that holds blocks. A block lists the last column of its sorted rotations, as places in a
list that the latest byte is moved to the front of, with runs of the first place by their lengths; the
places are written in several Huffman codes that take turns. Behind four equal bytes of a block stands
how many more of them follow. `Bzip2.restore` gives the blocks as far as they are complete.
-/
namespace JavaStubs.Bzip2

/-! ## Bits -/

/-- Why reading stops: the data is corrupt, or there are no more bits. -/
inductive Stop where
  | corrupt
  | exhausted
  deriving DecidableEq, Repr

/-- Reads from a sequence of bits. -/
abbrev Bits := StateT (List Bool) (Except Stop)

/-- The bits of a byte, the highest first. -/
def bitsOfByte (byte : UInt8) : List Bool :=
  ((List.range 8).map fun n => byte.toNat.testBit (7 - n))

def bit : Bits Bool := do
  match ← get with
  | [] => throw .exhausted
  | bit :: rest =>
    set rest
    return bit

/-- A number whose highest bits are known, with the next bits behind them. -/
def extended : Nat → Nat → Bits Nat
  | 0, n => return n
  | count + 1, n => do extended count (2 * n + (← bit).toNat)

def number (count : Nat) : Bits Nat := extended count 0

/-- Refuses data for which a condition does not hold. -/
def require (holds : Bool) : Bits Unit := if holds then pure () else throw .corrupt

/-- Reads bytes that have to be there. -/
def expect (bytes : List Nat) : Bits Unit :=
  bytes.forM fun byte => do require ((← number 8) == byte)

/-! ## Codes -/

def longest : Nat := 20

/-- The greatest number of symbols of a code. -/
def symbolLimit : Nat := 258

/-- A canonical code, read by length: the last word of each length, what is to be taken from a word of
that length to have the place of its symbol, and the symbols in the order of their words. -/
structure Code where
  shortest : Nat
  lasts : Array Int
  offsets : Array Int
  symbols : Array Nat

/-- The code whose words have given lengths. -/
def Code.ofLengths (lengths : List Nat) : Code :=
  let ofLength (n : Nat) := (lengths.zipIdx.filter (·.1 = n)).map Prod.snd
  let rows := (List.range longest).foldl (fun (lasts, offsets, next, place) n =>
      let count : Nat := (ofLength (n + 1)).length
      let after : Int := next + count
      (lasts.push (after - 1), offsets.push (next - place), 2 * after, place + count))
    ((#[-1] : Array Int), (#[0] : Array Int), (0 : Int), (0 : Int))
  { shortest := (lengths.min?).getD 1
    lasts := rows.1
    offsets := rows.2.1
    symbols := ((List.range longest).flatMap fun n => ofLength (n + 1)).toArray }

/-- The symbol of a word, which is made longer until it is one of the code; `fuel` is more than the
number of bits by which it can grow. -/
def Code.symbolOf (code : Code) : Nat → Nat → Int → Bits Nat
  | 0, _, _ => throw .corrupt
  | fuel + 1, length, word => do
    require (length ≤ longest)
    if word ≤ code.lasts[length]?.getD 0 then
      let place := word - code.offsets[length]?.getD 0
      require (0 ≤ place && place < symbolLimit)
      return code.symbols[place.toNat]?.getD 0
    else
      let next ← bit
      symbolOf code fuel (length + 1) (2 * word + (next.toNat : Int))

def Code.symbol (code : Code) : Bits Nat := do
  code.symbolOf (longest + 1) code.shortest (← number code.shortest : Nat)

/-! ## Descriptions -/

/-- The bytes that occur in a block: sixteen marks for groups of sixteen, then the marks of each group
that is marked. -/
def occurring : Bits (List UInt8) := do
  let groups ← number 16
  let found ← (List.range 16).mapM fun high => do
    if !groups.testBit (15 - high) then return []
    let marks ← number 16
    return (List.range 16).filterMap fun low =>
      if marks.testBit (15 - low) then some (UInt8.ofNat (16 * high + low)) else none
  return found.flatten

/-- How many set bits come before one that is not, fewer than a limit. -/
def ones : Nat → Bits Nat
  | 0 => throw .corrupt
  | limit + 1 => do
    if ← bit then return (← ones limit) + 1 else return 0

/-- A list with the item at a place moved to its front. -/
def toFront {α : Type} (items : List α) (place : Nat) : List α :=
  (items[place]?).toList ++ items.eraseIdx place

/-- The most turns of codes that are kept. -/
def turnLimit : Nat := 18002

/-- The codes that take turns, of which there are `codes`. -/
def turns (codes : Nat) : Bits (List Nat) := do
  let count ← number 15
  require (1 ≤ count)
  let places ← (List.range count).mapM fun _ => ones codes
  return (places.take turnLimit |>.foldl (fun (order, taken) place =>
    let order := toFront order place
    (order, (order.head?.getD 0) :: taken)) (List.range codes, [])).2.reverse

/-- The length of a code word, from the one before: each change by one is announced; `fuel` is more
than the number of bits. -/
def lengthFrom : Nat → Nat → Bits Nat
  | 0, _ => throw .exhausted
  | fuel + 1, length => do
    require (1 ≤ length && length ≤ longest)
    if !(← bit) then return length
    if ← bit then lengthFrom fuel (length - 1) else lengthFrom fuel (length + 1)

/-- A code of a number of symbols. -/
def described (symbols : Nat) : Bits Code := do
  let start ← number 5
  let (lengths, _) ← (List.range symbols).foldlM (fun (lengths, length) _ => do
    let length ← lengthFrom ((← get).length + 1) length
    return (length :: lengths, length)) (([] : List Nat), start)
  return Code.ofLengths lengths.reverse

/-! ## Columns -/

/-- What was read of a column: its bytes, the bytes in the order in which they came last, and the run
that is being read, with what the next mark of it counts. -/
structure Column where
  bytes : ByteArray
  order : List UInt8
  run : Nat
  weight : Nat

namespace Column

/-- The most that a mark of a run counts. -/
def weightLimit : Nat := 2097152

def copies (byte : UInt8) : Nat → ByteArray → ByteArray
  | 0, bytes => bytes
  | count + 1, bytes => copies byte count (bytes.push byte)

/-- The column with one more mark of a run. -/
def mark (column : Column) (symbol : Nat) : Bits Column := do
  require (column.weight < weightLimit)
  return { column with
    run := column.run + (symbol + 1) * column.weight
    weight := 2 * column.weight }

/-- The column with its run at the end, which has to have room. -/
def settle (column : Column) (room : Nat) : Bits Column := do
  require (column.bytes.size + column.run ≤ room)
  return { column with
    bytes := copies (column.order.head?.getD 0) column.run column.bytes
    run := 0
    weight := 1 }

/-- The column with the byte at a place of the order. -/
def push (column : Column) (place room : Nat) : Bits Column := do
  require (column.bytes.size < room)
  let order := toFront column.order place
  return { column with bytes := column.bytes.push (order.head?.getD 0), order }

/-- The column up to its end. Each code serves for fifty symbols; `left` of them are still to come from
the first one. `fuel` is more than the number of bits. -/
def read (room blockEnd : Nat) : Nat → List Code → Nat → Column → Bits ByteArray
  | 0, _, _, _ => throw .exhausted
  | _, [], _, _ => throw .corrupt
  | fuel + 1, code :: codes, left, column =>
    match left with
    | 0 => read room blockEnd fuel codes 50 column
    | left + 1 => do
      let symbol ← code.symbol
      if symbol ≤ 1 then read room blockEnd fuel (code :: codes) left (← column.mark symbol)
      else
        let column ← column.settle room
        if symbol = blockEnd then return column.bytes
        else read room blockEnd fuel (code :: codes) left (← column.push (symbol - 1) room)

end Column

/-- The bytes of which a column is the last one of the sorted rotations; `row` is the one that begins
where they begin. -/
def unsorted (column : ByteArray) (row : Nat) : List UInt8 :=
  let counts := column.data.foldl (fun (counts : Array Nat) byte => counts.modify byte.toNat (· + 1))
    (Array.replicate 256 0)
  let starts := (counts.foldl (fun (starts, total) count => (starts.push total, total + count))
    ((#[] : Array Nat), 0)).1
  let links := (column.data.foldl (fun (links, starts, place) byte =>
      ((links : Array Nat).setIfInBounds ((starts : Array Nat)[byte.toNat]?.getD 0) place,
        starts.modify byte.toNat (· + 1), place + 1))
    (Array.replicate column.size 0, starts, 0)).1
  (column.data.foldl (fun (bytes, row) _ =>
    (column.data[row]?.getD 0 :: bytes, links[row]?.getD 0))
    (([] : List UInt8), links[row]?.getD 0)).1.reverse

/-- Bytes with their runs in full: behind four equal ones stands how many more there are. `same` is how
many times the latest one was met. -/
def withRuns (done : ByteArray) (latest : UInt8) : Nat → List UInt8 → Option ByteArray
  | same, [] => if same = 4 then none else some done
  | same, byte :: rest =>
    if same = 4 then withRuns (Column.copies latest byte.toNat done) latest 0 rest
    else withRuns (done.push byte) byte (if same ≠ 0 && byte = latest then same + 1 else 1) rest

/-! ## Checksums -/

/-- One step of the division by the polynomial of the checksum. -/
def shift (remainder : UInt32) : UInt32 :=
  if remainder &&& 0x80000000 == 0 then remainder <<< 1 else (remainder <<< 1) ^^^ 0x04C11DB7

def step (remainder : UInt32) (byte : UInt8) : UInt32 :=
  let high : UInt32 := byte.toUInt32 <<< (24 : UInt32)
  Nat.repeat shift 8 (remainder ^^^ high)

def checksum (bytes : ByteArray) : UInt32 := (bytes.toList.foldl step 0xFFFFFFFF) ^^^ 0xFFFFFFFF

/-- The checksum of blocks with that of one more. -/
def combined (before next : UInt32) : UInt32 := ((before <<< 1) ||| (before >>> 31)) ^^^ next

/-! ## Blocks -/

/-- The bytes in a unit of the size of blocks. -/
def unit : Nat := 100000

/-- A block of at most `room` bytes, behind its mark. Blocks whose bytes were disturbed on purpose are
not taken. -/
def block (room : Nat) : Bits (UInt32 × List UInt8) := do
  let check ← number 32
  let disturbed ← bit
  let row ← number 24
  require (row ≤ 10 + room)
  let bytes ← occurring
  require (!bytes.isEmpty)
  let codeCount ← number 3
  require (2 ≤ codeCount && codeCount ≤ 6)
  let order ← turns codeCount
  let codes ← (List.range codeCount).mapM fun _ => described (bytes.length + 2)
  let turn (n : Nat) : Code := (codes[n]?).getD (Code.ofLengths [])
  let column ← Column.read room (bytes.length + 1) (2 * (← get).length + order.length + 2)
    (order.map turn) 50 ⟨.empty, bytes, 0, 1⟩
  require (row < column.size && !disturbed)
  return (UInt32.ofNat check, unsorted column row)

/-- The blocks of at most `room` bytes up to the end of the data, behind what was restored before;
`fuel` is more than the number of bits. Nothing if the data is corrupt. -/
def blocksFrom (room : Nat) : Nat → UInt32 → ByteArray → List Bool → Option (ByteArray × Bool)
  | 0, _, done, _ => some (done, false)
  | fuel + 1, check, done, bits =>
    let next : Bits (Option (UInt32 × List UInt8)) := do
      let mark ← number 8
      if mark = 0x17 then
        expect [0x72, 0x45, 0x38, 0x50, 0x90]
        require ((← number 32) == check.toNat)
        return none
      require (mark == 0x31)
      expect [0x41, 0x59, 0x26, 0x53, 0x59]
      return some (← block room)
    match next.run bits with
    | .error .exhausted => some (done, false)
    | .error .corrupt => none
    | .ok (none, _) => some (done, true)
    | .ok (some (listed, bytes), bits) =>
      match withRuns .empty 0 0 bytes with
      | none => none
      | some bytes =>
        if checksum bytes = listed
          then blocksFrom room fuel (combined check listed) (done ++ bytes) bits
          else none

/-- What packed data holds as far as its blocks are complete, and whether it is; nothing if it is
corrupt. -/
def restore (data : List UInt8) : Option (ByteArray × Bool) :=
  let start : Bits Nat := do
    expect [0x42, 0x5A, 0x68]
    let size ← number 8
    require (0x31 ≤ size && size ≤ 0x39)
    return (size - 0x30) * unit
  let bits := data.flatMap bitsOfByte
  match start.run bits with
  | .error .exhausted => some (.empty, false)
  | .error .corrupt => none
  | .ok (room, bits) => blocksFrom room (bits.length + 1) 0 .empty bits

end JavaStubs.Bzip2
