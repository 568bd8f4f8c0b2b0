import JavaStubs.Archive.Basic

/-!
Restoring bytes that were packed with an adaptive model. Packed data is a number in a range that
shrinks with every bit that is read from it, as far as the bit was likely; how likely each bit is
adapts to the bits that were read in its place. The bits spell bytes, or pieces that repeat what was
restored before. `Lzma.restore` gives what the data holds as far as it is complete.
-/
namespace JavaStubs.Lzma

/-- What is wrong with packed data. -/
inductive Fault where
  | options
  | corrupt
  deriving DecidableEq, Repr

def Fault.message : Fault → String
  | .options => "Invalid or unsupported options"
  | .corrupt => "Corrupt input data"

/-- What the model looks at: how many of the highest bits of the latest byte, how many of the lowest bits
of the place for bytes and for the rest, and how far back pieces can begin. -/
structure Options where
  byteBits : Nat
  placeBits : Nat
  partBits : Nat
  reach : Nat

def Options.ofBytes? (bytes : List UInt8) : Option Options :=
  match bytes with
  | [bits, a, b, c, d] =>
    let n := bits.toNat
    let reach := a.toNat + 256 * (b.toNat + 256 * (c.toNat + 256 * d.toNat))
    let options : Options := ⟨n % 9, n / 9 % 5, n / 45, (max reach 4096 + 15) / 16 * 16⟩
    if n < 225 && options.byteBits + options.placeBits ≤ 4 then some options else none
  | _ => none

/-! ## Likely bits -/

/-- Why reading stops: the data is corrupt, or there is no more of it. -/
inductive Stop where
  | corrupt
  | exhausted
  deriving DecidableEq, Repr

/-- A number in a range, with the bytes behind it, and how likely an unset bit is in each place of the
model, in parts of 2048. -/
structure Source where
  range : Nat
  number : Nat
  rest : List UInt8
  chances : Array Nat

/-- Reads from a source. -/
abbrev Bits := StateT Source (Except Stop)

/-- The number of values of a word of the source. -/
def wordSize : Nat := 4294967296

/-- Takes one more byte if the range has become small. -/
def widen : Bits Unit := do
  let source ← get
  if source.range < 16777216 then
    match source.rest with
    | [] => throw .exhausted
    | byte :: rest => set { source with
        range := 256 * source.range
        number := (256 * source.number + byte.toNat) % wordSize
        rest := rest }

/-- The next bit, in a place of the model. -/
def bit (place : Nat) : Bits Nat := do
  widen
  let source ← get
  let chance := source.chances[place]?.getD 1024
  let bound := source.range / 2048 * chance
  if source.number < bound then
    set { source with
      range := bound
      chances := source.chances.setIfInBounds place (chance + (2048 - chance) / 32) }
    return 0
  else
    set { source with
      range := source.range - bound
      number := source.number - bound
      chances := source.chances.setIfInBounds place (chance - chance / 32) }
    return 1

/-- More bits that are as likely set as not, behind a number. -/
def evenBits : Nat → Nat → Bits Nat
  | 0, n => return n
  | count + 1, n => do
    widen
    let source ← get
    let half := source.range / 2
    if source.number < half then
      set { source with range := half }
      evenBits count (2 * n)
    else
      set { source with range := half, number := source.number - half }
      evenBits count (2 * n + 1)

/-- More bits behind a number, the highest first, each in the place that the number has then. -/
def grown (place : Nat) : Nat → Nat → Bits Nat
  | 0, n => return n
  | count + 1, n => do grown place count (2 * n + (← bit (place + n)))

/-- A number of some bits, the highest first. -/
def highFirst (place count : Nat) : Bits Nat := return (← grown place count 1) - Nat.pow 2 count

/-- A number of some bits, the lowest first; `weight` is what the next bit counts. -/
def lowFirst (place : Nat) : Nat → Nat → Nat → Bits Nat
  | 0, _, _ => return 0
  | count + 1, n, weight => do
    let found ← bit (place + n)
    return weight * found + (← lowFirst place count (2 * n + found) (2 * weight))

/-! ## Places of the model -/

namespace Place

/-- Whether a piece follows, by the kind of what came last and by the place. -/
def isPiece (kind part : Nat) : Nat := 16 * kind + part

/-- Whether a piece begins as far back as an earlier one. -/
def isKnown (kind : Nat) : Nat := 192 + kind

/-- Whether it is not as far back as the latest one. -/
def isOlder (kind : Nat) : Nat := 204 + kind

/-- Whether it is not as far back as the second latest one. -/
def isThird (kind : Nat) : Nat := 216 + kind

/-- Whether it is not as far back as the third latest one. -/
def isFourth (kind : Nat) : Nat := 228 + kind

/-- Whether a piece as far back as the latest one has more than one byte. -/
def isLong (kind part : Nat) : Nat := 240 + 16 * kind + part

/-- The size of a distance, by the length of its piece. -/
def size (length : Nat) : Nat := 432 + 64 * length

/-- The lowest bits of a distance of less than seven bits. -/
def small : Nat := 688

/-- The lowest four bits of a greater one. -/
def lowest : Nat := 803

def newLength : Nat := 819

/-- The lengths of pieces that are as far back as an earlier one. -/
def knownLength : Nat := 1333

/-- The bytes, by what stands around them. -/
def byte (around : Nat) : Nat := 1847 + 768 * around

end Place

/-! ## Bytes and pieces -/

/-- What was restored, the kind of what came last, and how far back the latest four pieces began, less
one. -/
structure Progress where
  done : ByteArray
  kind : Nat
  first : Nat
  second : Nat
  third : Nat
  fourth : Nat

namespace Progress

/-- The byte at a distance, less one, before the end. -/
def back (progress : Progress) (distance : Nat) : UInt8 :=
  if distance < progress.done.size then progress.done.data[progress.done.size - 1 - distance]?.getD 0
  else 0

/-- The lowest bits of the place of the next byte. -/
def part (progress : Progress) (bits : Nat) : Nat := progress.done.size % Nat.pow 2 bits

/-- Whether a piece can begin at a distance, less one. -/
def reaches (progress : Progress) (options : Options) (distance : Nat) : Bool :=
  distance < min progress.done.size options.reach

/-- The kinds up to this one stand for what ended with a byte. -/
def byteKinds : Nat := 7

/-- One of two kinds, as what came before was a byte or a piece. -/
def kindAfter (progress : Progress) (afterByte afterPiece : Nat) : Nat :=
  if progress.kind < byteKinds then afterByte else afterPiece

/-- The bytes with a piece of some length that begins at a distance, less one. -/
def copied (progress : Progress) : Nat → Progress
  | 0 => progress
  | length + 1 =>
    copied { progress with done := progress.done.push (progress.back progress.first) } length

end Progress

/-- The bits of a byte while they are those of another byte, the one at which a piece would have gone
on; `half` chooses its next bit, and is zero as soon as they differ. -/
def likeByte (place : Nat) : Nat → Nat → Nat → Nat → Bits Nat
  | 0, _, _, n => return n
  | count + 1, half, other, n => do
    let other := 2 * other
    let expected := other &&& half
    let found ← bit (place + half + expected + n)
    let half := if found = 0 then half - expected else expected
    likeByte place count half other (2 * n + found)

/-- A byte. -/
def byte (options : Options) (progress : Progress) : Bits Progress := do
  let latest := if progress.done.size = 0 then 0 else (progress.back 0).toNat
  let around := progress.part options.placeBits * Nat.pow 2 options.byteBits +
    latest / Nat.pow 2 (8 - options.byteBits)
  let place := Place.byte around
  let found ←
    if progress.kind < Progress.byteKinds then grown place 8 1
    else likeByte place 8 256 (progress.back progress.first).toNat 1
  let kind := progress.kind
  return { progress with
    done := progress.done.push (UInt8.ofNat (found % 256))
    kind := if kind ≤ 3 then 0 else if kind ≤ 9 then kind - 3 else kind - 6 }

def pieceLength (place part : Nat) : Bits Nat := do
  if (← bit place) = 0 then return 2 + (← highFirst (place + 2 + 8 * part) 3)
  if (← bit (place + 1)) = 0 then return 10 + (← highFirst (place + 130 + 8 * part) 3)
  return 18 + (← highFirst (place + 258) 8)

/-- The distance, less one, at which a piece of some length begins. -/
def pieceDistance (length : Nat) : Bits Nat := do
  let size ← highFirst (Place.size (min (length - 2) 3)) 6
  if size < 4 then return size
  else
    let more := size / 2 - 1
    let high := 2 + size % 2
    if size < 14 then
      let start := high * Nat.pow 2 more
      return start + (← lowFirst (Place.small + start - size - 1) more 1 1)
    else
      let start ← evenBits (more - 4) high
      return (16 * start + (← lowFirst Place.lowest 4 1 1)) % wordSize

def endDistance : Nat := wordSize - 1

/-- Refuses data for which a condition does not hold. -/
def require (holds : Bool) : Bits Unit := if holds then pure () else throw .corrupt

/-- The distance of one of the three pieces before the latest one as that of the next piece. -/
def recalled (progress : Progress) : Bits Progress := do
  if (← bit (Place.isThird progress.kind)) = 0 then
    return { progress with first := progress.second, second := progress.first }
  if (← bit (Place.isFourth progress.kind)) = 0 then
    return { progress with
      first := progress.third
      second := progress.first
      third := progress.second }
  return { progress with
    first := progress.fourth
    second := progress.first
    third := progress.second
    fourth := progress.third }

/-- A piece, or nothing at the end of the data. -/
def piece (options : Options) (progress : Progress) (part : Nat) : Bits (Option Progress) := do
  let kind := progress.kind
  if (← bit (Place.isKnown kind)) = 0 then
    let length ← pieceLength Place.newLength part
    let distance ← pieceDistance length
    if distance = endDistance then
      widen
      require ((← get).number == 0)
      return none
    require (progress.reaches options distance)
    let progress := { progress with
      kind := progress.kindAfter 7 10
      first := distance
      second := progress.first
      third := progress.second
      fourth := progress.third }
    return some (progress.copied length)
  else
    require (progress.done.size ≠ 0)
    let longKind := progress.kindAfter 8 11
    if (← bit (Place.isOlder kind)) = 0 then
      if (← bit (Place.isLong kind part)) = 0 then
        return some ({ progress with kind := progress.kindAfter 9 11 }.copied 1)
      let length ← pieceLength Place.knownLength part
      return some ({ progress with kind := longKind }.copied length)
    let chosen ← recalled progress
    let length ← pieceLength Place.knownLength part
    return some ({ chosen with kind := longKind }.copied length)

/-- The next byte or piece, or nothing at the end of the data. -/
def next (options : Options) (progress : Progress) : Bits (Option Progress) := do
  let part := progress.part options.partBits
  if (← bit (Place.isPiece progress.kind part)) = 0 then return some (← byte options progress)
  else piece options progress part

/-- Bytes and pieces up to the end; `fuel` is more than their number. -/
def restoreFrom (options : Options) : Nat → Progress → Source → Except Fault (ByteArray × Bool)
  | 0, progress, _ => .ok (progress.done, false)
  | fuel + 1, progress, source =>
    match (next options progress).run source with
    | .error .exhausted => .ok (progress.done, false)
    | .error .corrupt => .error .corrupt
    | .ok (none, _) => .ok (progress.done, true)
    | .ok (some progress, source) => restoreFrom options fuel progress source

/-- The most bits that one byte of packed data can stand for. -/
def bitsPerByte : Nat := 400

/-- What the data holds behind its options. -/
def restoreWith (options : Options) (data : List UInt8) : Except Fault (ByteArray × Bool) :=
  let head := data.take 5
  if head.head?.any (· ≠ 0) then .error .corrupt
  else if head.length < 5 then .ok (.empty, false)
  else
    let number := head.foldl (fun n byte => 256 * n + byte.toNat) 0
    let size := Place.byte (Nat.pow 2 (options.byteBits + options.placeBits))
    restoreFrom options (bitsPerByte * (data.length + 1)) ⟨.empty, 0, 0, 0, 0, 0⟩
      ⟨wordSize - 1, number, data.drop 5, Array.replicate size 1024⟩

/-- What packed data holds as far as it is complete, and whether it is. In front of it stand two bytes
for a version, two for how many bytes describe the options, and those bytes. -/
def restore (data : List UInt8) : Except Fault (ByteArray × Bool) :=
  match data with
  | _ :: _ :: low :: high :: rest =>
    let size := low.toNat + 256 * high.toNat
    if rest.length ≤ size then .ok (.empty, false)
    else match Options.ofBytes? (rest.take size) with
      | some options => restoreWith options (rest.drop size)
      | none => .error .options
  | _ => .ok (.empty, false)

end JavaStubs.Lzma
