/-!
Sums and digests of the bytes of a text. There are three sums: one whose remainder counts, and two plain
ones.

Digests work on blocks. A text is filled up to whole blocks of sixteen words, with its length in bits at
the very end, and the blocks are worked into a state one after another; the digest is the state at the end,
or the start of it. The digest MD5 takes four rounds of sixteen steps over each block. The digests of the
SHA family are made with numbers that are digits of the roots of primes, so `fraction` works them out.
-/
namespace JavaStubs.Digest

/-- Which byte of a word comes first. -/
inductive ByteOrder where
  | highFirst
  | lowFirst
  deriving DecidableEq, Repr

/-- A way to digest texts by words of `w` bits. -/
structure Method (w : Nat) where
  order : ByteOrder
  start : List (BitVec w)
  /-- The state after a block of sixteen words. -/
  step : List (BitVec w) → List (BitVec w) → List (BitVec w)
  /-- The number of bytes of a digest. -/
  size : Nat

namespace ByteOrder

def bytesOf (order : ByteOrder) (count n : Nat) : List UInt8 :=
  let low := (List.range count).map fun place => UInt8.ofNat (n / Nat.pow 256 place % 256)
  match order with
  | .highFirst => low.reverse
  | .lowFirst => low

def numberOf (order : ByteOrder) (bytes : List UInt8) : Nat :=
  let high := match order with
    | .highFirst => bytes
    | .lowFirst => bytes.reverse
  high.foldl (fun n byte => 256 * n + byte.toNat) 0

end ByteOrder

/-- The parts of a list, each of a length, except for the last one, which may be shorter; `fuel` is at
least the length of the list. -/
def partsFrom {α : Type} (length : Nat) : Nat → List α → List (List α)
  | fuel + 1, item :: rest =>
    (item :: rest).take length :: partsFrom length fuel ((item :: rest).drop length)
  | _, _ => []

/-- The parts of a list, each of a length, except for the last one, which may be shorter. -/
def parts {α : Type} (length : Nat) (items : List α) : List (List α) :=
  partsFrom length items.length items

namespace Method

/-- The bytes that fill a text of a length up to whole blocks: a mark, zeros, and the length in bits. -/
def filling {w : Nat} (method : Method w) (length : Nat) : List UInt8 :=
  let word := w / 8
  let used := (length + 1 + 2 * word) % (16 * word)
  let zeros := (16 * word - used) % (16 * word)
  0x80 :: (List.replicate zeros 0 ++ method.order.bytesOf (2 * word) (8 * length))

def words {w : Nat} (method : Method w) (block : List UInt8) : List (BitVec w) :=
  (parts (w / 8) block).map fun bytes => BitVec.ofNat w (method.order.numberOf bytes)

def digest {w : Nat} (method : Method w) (text : List UInt8) : List UInt8 :=
  let blocks := parts (16 * (w / 8)) (text ++ method.filling text.length)
  let last := blocks.foldl (fun state block => method.step state (method.words block)) method.start
  (last.flatMap fun word => method.order.bytesOf (w / 8) word.toNat).take method.size

end Method

end JavaStubs.Digest

namespace JavaStubs.Digest

/-- A remainder with one more bit behind it. -/
def pushBit (remainder : BitVec 32) (bit : Bool) : BitVec 32 :=
  if remainder.msb != bit then remainder <<< 1 ^^^ 0x04c11db7 else remainder <<< 1

/-- A remainder with one more byte behind it, the highest bit first. -/
def pushByte (remainder : BitVec 32) (byte : UInt8) : BitVec 32 :=
  (List.range 8).foldl (fun found place => pushBit found (byte.toNat.testBit (7 - place))) remainder

/-- The bytes of a number without zeros behind them, the lowest first; `fuel` is at least their number. -/
def lengthBytes : Nat → Nat → List UInt8
  | 0, _ => []
  | fuel + 1, n => if n = 0 then [] else UInt8.ofNat (n % 256) :: lengthBytes fuel (n / 256)

/-- The checksum of a text: what remains of it and its length in a division of polynomials. -/
def remainderSum (text : List UInt8) : Nat :=
  (~~~ (text ++ lengthBytes 16 text.length).foldl pushByte 0).toNat

/-- The sum of the bytes of a text in 16 bits that are turned by one before each. -/
def turningSum (text : List UInt8) : Nat :=
  (text.foldl (fun (sum : BitVec 16) byte =>
    sum.rotateRight 1 + BitVec.ofNat 16 byte.toNat) 0).toNat

/-- The sum of the bytes of a text, with what does not fit in 16 bits added to the lower ones. -/
def foldingSum (text : List UInt8) : Nat :=
  let sum := text.foldl (fun n byte => n + byte.toNat) 0 % Nat.pow 2 32
  let once := sum % 65536 + sum / 65536
  once % 65536 + once / 65536

end JavaStubs.Digest

namespace JavaStubs.Digest.Md5

/-- The numbers of the steps: the first 32 bits behind the point of the sines of 1, 2, 3 and so on,
without their signs. -/
def sines : List (BitVec 32) :=
  [0xd76aa478, 0xe8c7b756, 0x242070db, 0xc1bdceee, 0xf57c0faf, 0x4787c62a, 0xa8304613, 0xfd469501,
    0x698098d8, 0x8b44f7af, 0xffff5bb1, 0x895cd7be, 0x6b901122, 0xfd987193, 0xa679438e, 0x49b40821,
    0xf61e2562, 0xc040b340, 0x265e5a51, 0xe9b6c7aa, 0xd62f105d, 0x02441453, 0xd8a1e681, 0xe7d3fbc8,
    0x21e1cde6, 0xc33707d6, 0xf4d50d87, 0x455a14ed, 0xa9e3e905, 0xfcefa3f8, 0x676f02d9, 0x8d2a4c8a,
    0xfffa3942, 0x8771f681, 0x6d9d6122, 0xfde5380c, 0xa4beea44, 0x4bdecfa9, 0xf6bb4b60, 0xbebfbc70,
    0x289b7ec6, 0xeaa127fa, 0xd4ef3085, 0x04881d05, 0xd9d4d039, 0xe6db99e5, 0x1fa27cf8, 0xc4ac5665,
    0xf4292244, 0x432aff97, 0xab9423a7, 0xfc93a039, 0x655b59c3, 0x8f0ccc92, 0xffeff47d, 0x85845dd1,
    0x6fa87e4f, 0xfe2ce6e0, 0xa3014314, 0x4e0811a1, 0xf7537e82, 0xbd3af235, 0x2ad7d2bb, 0xeb86d391]

/-- How far the steps of each round turn, by their numbers modulo four. -/
def turns : List (List Nat) := [[7, 12, 17, 22], [5, 9, 14, 20], [4, 11, 16, 23], [6, 10, 15, 21]]

/-- The mixture of three words in a round, and the place of the word that a step takes. -/
def mixture (round place : Nat) (b c d : BitVec 32) : BitVec 32 × Nat :=
  match round with
  | 0 => ((b &&& c) ||| (~~~b &&& d), place)
  | 1 => ((d &&& b) ||| (~~~d &&& c), (5 * place + 1) % 16)
  | 2 => (b ^^^ c ^^^ d, (3 * place + 5) % 16)
  | _ => (c ^^^ (b ||| ~~~d), (7 * place) % 16)

/-- One step of a state, with its number. -/
def step (block : Array (BitVec 32)) (state : List (BitVec 32)) (place : Nat) : List (BitVec 32) :=
  match state with
  | [a, b, c, d] =>
    let round := place / 16
    let (mixed, word) := mixture round place b c d
    let turn := ((turns[round]?.getD [])[place % 4]?).getD 0
    let sum := a + mixed + sines.getD place 0 + block.getD word 0
    [d, b + sum.rotateLeft turn, b, c]
  | other => other

def method : Method 32 where
  order := .lowFirst
  start := [0x67452301, 0xefcdab89, 0x98badcfe, 0x10325476]
  step := fun state block =>
    List.zipWith (· + ·) state ((List.range 64).foldl (step block.toArray) state)
  size := 16

end JavaStubs.Digest.Md5

namespace JavaStubs.Digest.Secure

/-! ## Numbers -/

def isPrime (n : Nat) : Bool := 2 ≤ n && (List.range n).all fun d => d < 2 || n % d != 0

/-- The primes below 410, of which there are eighty. -/
def primes : List Nat := (List.range 410).filter isPrime

/-- The greatest number below `2 ^ bits` whose power is at most `n`. -/
def rootBelow (power bits n : Nat) : Nat :=
  (List.range bits).foldr (fun place found =>
    let more := found + Nat.pow 2 place
    if Nat.pow more power ≤ n then more else found) 0

/-- The first `w` bits behind the point of the root of a number. -/
def fraction (w power n : Nat) : BitVec w :=
  BitVec.ofNat w (rootBelow power (w + 8) (n * Nat.pow 2 (power * w)))

/-- The first numbers of the rounds, from the cube roots of primes. -/
def roundNumbers (w rounds : Nat) : List (BitVec w) := (primes.take rounds).map (fraction w 3)

/-! ## By words of two sizes -/

/-- What the digests of a size of words turn words by. -/
structure Turns where
  /-- Three turns to the right, whose results are joined. -/
  state : Nat × Nat × Nat
  /-- The same for the other half of the state. -/
  other : Nat × Nat × Nat
  /-- Two turns to the right, and a shift. -/
  late : Nat × Nat × Nat
  early : Nat × Nat × Nat

/-- A word turned in three ways, joined. -/
def turned {w : Nat} (turns : Nat × Nat × Nat) (word : BitVec w) : BitVec w :=
  word.rotateRight turns.1 ^^^ word.rotateRight turns.2.1 ^^^ word.rotateRight turns.2.2

/-- A word turned in two ways and shifted, joined. -/
def shifted {w : Nat} (turns : Nat × Nat × Nat) (word : BitVec w) : BitVec w :=
  word.rotateRight turns.1 ^^^ word.rotateRight turns.2.1 ^^^ word >>> turns.2.2

/-- The words of a block and those that are made of them, `count` in all; the latest stand first. -/
def schedule {w : Nat} (next : List (BitVec w) → BitVec w) (count : Nat) (block : List (BitVec w)) :
    List (BitVec w) :=
  ((List.range (count - block.length)).foldl (fun words _ => next words :: words) block.reverse).reverse

/-- The word behind others, of which the latest stand first. -/
def nextWord {w : Nat} (turns : Turns) (words : List (BitVec w)) : BitVec w :=
  shifted turns.early (words.getD 1 0) + words.getD 6 0 + shifted turns.late (words.getD 14 0) +
    words.getD 15 0

/-- One round of a state. -/
def round {w : Nat} (turns : Turns) (state : List (BitVec w)) (number : BitVec w × BitVec w) :
    List (BitVec w) :=
  match state with
  | [a, b, c, d, e, f, g, h] =>
    let chosen := (e &&& f) ^^^ (~~~e &&& g)
    let common := (a &&& b) ^^^ (a &&& c) ^^^ (b &&& c)
    let first := h + turned turns.other e + chosen + number.1 + number.2
    [first + (turned turns.state a + common), a, b, c, d + first, e, f, g]
  | other => other

/-- The way to digest with a number of rounds for each block. -/
def wide {w : Nat} (turns : Turns) (numbers start : List (BitVec w)) (size : Nat) : Method w where
  order := .highFirst
  start := start
  step := fun state block =>
    let words := schedule (nextWord turns) numbers.length block
    List.zipWith (· + ·) state ((numbers.zip words).foldl (round turns) state)
  size := size

/-- The turns of words of 32 bits. -/
def narrowTurns : Turns := ⟨(2, 13, 22), (6, 11, 25), (7, 18, 3), (17, 19, 10)⟩

/-- The turns of words of 64 bits. -/
def wideTurns : Turns := ⟨(28, 34, 39), (14, 18, 41), (1, 8, 7), (19, 61, 6)⟩

def sha256 : Method 32 :=
  wide narrowTurns (roundNumbers 32 64) ((primes.take 8).map (fraction 32 2)) 32

/-- The digest of 224 bits, which starts with the second halves of longer fractions. -/
def sha224 : Method 32 :=
  let start := ((primes.drop 8).take 8).map fun prime => (fraction 64 2 prime).setWidth 32
  wide narrowTurns (roundNumbers 32 64) start 28

def sha512 : Method 64 :=
  wide wideTurns (roundNumbers 64 80) ((primes.take 8).map (fraction 64 2)) 64

def sha384 : Method 64 :=
  wide wideTurns (roundNumbers 64 80) (((primes.drop 8).take 8).map (fraction 64 2)) 48

/-! ## The oldest one -/

/-- The word behind others in the oldest digest of the family. -/
def oldNextWord (words : List (BitVec 32)) : BitVec 32 :=
  (words.getD 2 0 ^^^ words.getD 7 0 ^^^ words.getD 13 0 ^^^ words.getD 15 0).rotateLeft 1

/-- The mixture of three words in a round, and the number of the round: the first bits of the square
roots of 2, 3, 5 and 10. -/
def oldMixture (place : Nat) (b c d : BitVec 32) : BitVec 32 :=
  match place / 20 with
  | 0 => ((b &&& c) ||| (~~~b &&& d)) + 0x5a827999
  | 1 => (b ^^^ c ^^^ d) + 0x6ed9eba1
  | 2 => ((b &&& c) ||| (b &&& d) ||| (c &&& d)) + 0x8f1bbcdc
  | _ => (b ^^^ c ^^^ d) + 0xca62c1d6

/-- One round of the oldest digest of the family, with its word and its number. -/
def oldRound (state : List (BitVec 32)) (word : BitVec 32 × Nat) : List (BitVec 32) :=
  match state with
  | [a, b, c, d, e] =>
    [a.rotateLeft 5 + oldMixture word.2 b c d + e + word.1, a, b.rotateLeft 30, c, d]
  | other => other

def sha1 : Method 32 where
  order := .highFirst
  start := [0x67452301, 0xefcdab89, 0x98badcfe, 0x10325476, 0xc3d2e1f0]
  step := fun state block =>
    List.zipWith (· + ·) state ((schedule oldNextWord 80 block).zipIdx.foldl oldRound state)
  size := 20

end JavaStubs.Digest.Secure
