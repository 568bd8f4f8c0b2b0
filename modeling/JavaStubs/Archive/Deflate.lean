import JavaStubs.Archive.Inflate

/-!
Deflating bytes. `Deflate.tokens` cuts bytes into literals and pieces that repeat what came before:
each place is looked up among the latest places with the same next three bytes, and a piece gives way
to a longer one that begins a byte later. The tokens go into blocks, each of which is written in the
shortest of three ways: as bytes, in the code that needs no description, or in a code of its own.
`Deflate.compress` gives the deflated bytes.
-/
namespace JavaStubs.Deflate

/-! ## Tokens -/

/-- A part of deflated data: a byte, or a piece that is repeated from a distance before it. -/
inductive Token where
  | literal (byte : UInt8)
  | piece (length distance : Nat)
  deriving DecidableEq, Repr

/-- The number of bytes that a token stands for. -/
def Token.size : Token → Nat
  | .literal _ => 1
  | .piece length _ => length

def leastPiece : Nat := 3

def greatestPiece : Nat := 258

/-- The greatest distance that is looked back. -/
def reach : Nat := 32506

/-- The greatest distance at which a piece of the least length is worth its while. -/
def leastPieceReach : Nat := 4096

/-- How many places are looked up for a piece. -/
def patience : Nat := 128

/-- The length from which on a piece is long enough for a quick look for a longer one. -/
def goodLength : Nat := 8

/-- The length from which on no longer piece is looked for one byte later. -/
def lazyLength : Nat := 16

/-- The length from which on no longer piece is looked for at the same place. -/
def niceLength : Nat := 128

/-- The places of bytes by the three bytes that begin at them. For each key, `heads` has the latest
place, and for each place, `links` has the one before it with the same key. Zero stands for none. -/
structure Index where
  heads : Array Nat
  links : Array Nat

namespace Index

def empty : Index := ⟨Array.replicate 32768 0, #[]⟩

def byteAt (bytes : ByteArray) (place : Nat) : Nat := (bytes.data[place]?.getD 0).toNat

/-- The key of the three bytes at a place. -/
def key (bytes : ByteArray) (place : Nat) : Nat :=
  (byteAt bytes place * 1024 ^^^ byteAt bytes (place + 1) * 32 ^^^ byteAt bytes (place + 2)) % 32768

/-- The index with the next place, and the latest place before it with the same key. A place that
fewer than three bytes follow has no key. -/
def insert (bytes : ByteArray) (index : Index) (place : Nat) : Index × Nat :=
  if place + leastPiece ≤ bytes.size then
    let k := key bytes place
    let before := index.heads[k]?.getD 0
    (⟨index.heads.setIfInBounds k place, index.links.push before⟩, before)
  else (index, 0)

/-- The index with the next places, `count` of them from a place on. -/
def insertAll (bytes : ByteArray) : Nat → Nat → Index → Index
  | 0, _, index => index
  | count + 1, place, index => insertAll bytes count (place + 1) (index.insert bytes place).1

end Index

/-- How many bytes from two places on are the same, up to a limit. -/
def common (bytes : ByteArray) (first second : Nat) : Nat → Nat
  | 0 => 0
  | limit + 1 =>
    if Index.byteAt bytes first = Index.byteAt bytes second then
      common bytes (first + 1) (second + 1) limit + 1
    else 0

/-- A piece that was found: its length, and where what it repeats begins. -/
structure Found where
  length : Nat
  start : Nat

/-- The longest piece for a place that begins at one of the next places in a chain, if it is longer
than the one found before. -/
def longest (bytes : ByteArray) (links : Array Nat) (place : Nat) :
    Nat → Nat → Found → Found
  | 0, _, found => found
  | chances + 1, candidate, found =>
    let ahead := bytes.size - place
    let length := common bytes candidate place (min greatestPiece ahead)
    let better : Found := if found.length < length then ⟨length, candidate⟩ else found
    if found.length < length && min niceLength ahead ≤ length then better
    else
      let next := links[candidate]?.getD 0
      if place - reach < next then longest bytes links place chances next better else better

/-- The piece to take at a place, where one of a given length begins a byte before. Its length is less
than the least one if there is none. -/
def pieceAt (bytes : ByteArray) (index : Index) (place candidate before : Nat) : Found :=
  let none : Found := ⟨leastPiece - 1, 0⟩
  if candidate = 0 || lazyLength ≤ before || reach < place - candidate then none
  else
    let chances := if goodLength ≤ before then patience / 4 else patience
    let found := longest bytes index.links place chances candidate ⟨before, 0⟩
    let length := min found.length (bytes.size - place)
    if length = leastPiece && leastPieceReach < place - found.start then none
    else ⟨length, found.start⟩

/-- The tokens from a place on. `held` is the piece at the place before, whose token is held back as
long as a longer piece may begin here; `fuel` is more than the number of bytes. -/
def tokensFrom (bytes : ByteArray) : Nat → Index → Nat → Option Found → List Token
  | 0, _, _, _ => []
  | fuel + 1, index, place, held =>
    let literal := Token.literal (UInt8.ofNat (Index.byteAt bytes (place - 1)))
    if bytes.size ≤ place then
      match held with
      | none => []
      | some piece =>
        if leastPiece ≤ piece.length then [.piece piece.length (place - 1 - piece.start)]
        else [literal]
    else
      let (index, candidate) := index.insert bytes place
      let before := (held.map Found.length).getD (leastPiece - 1)
      let found := pieceAt bytes index place candidate before
      match held with
      | none => tokensFrom bytes fuel index (place + 1) (some found)
      | some piece =>
        if leastPiece ≤ piece.length && found.length ≤ piece.length then
          let index := index.insertAll bytes (piece.length - 2) (place + 1)
          .piece piece.length (place - 1 - piece.start) ::
            tokensFrom bytes fuel index (place + piece.length - 1) none
        else literal :: tokensFrom bytes fuel index (place + 1) (some found)

def tokens (bytes : ByteArray) : List Token :=
  tokensFrom bytes (bytes.size + 1) .empty 0 none

/-! ## Symbols -/

/-- The symbol of a number in a table of least numbers, with what is above the least one in as many
bits as the table says. -/
structure Measured where
  symbol : Nat
  extra : Nat
  width : Nat

/-- The last row of a table whose least number is not above a number. -/
def measured (table : List (Nat × Nat)) (n : Nat) : Measured :=
  table.zipIdx.foldl (fun best ((least, width), symbol) =>
    if least ≤ n then ⟨symbol, n - least, width⟩ else best) ⟨0, 0, 0⟩

/-- The symbol of a length, among the symbols of literals. -/
def lengthSymbol (length : Nat) : Measured :=
  let found := measured Inflate.pieceLengths length
  { found with symbol := Inflate.blockEnd + 1 + found.symbol }

def distanceSymbol (distance : Nat) : Measured := measured Inflate.pieceDistances distance

/-- The symbols among which literals and lengths are. -/
def literalCount : Nat := 286

def distanceCount : Nat := 30

/-- The numbers with one more at a place. -/
def counted (counts : Array Nat) (place : Nat) : Array Nat := counts.modify place (· + 1)

/-- How often each literal or length, and each distance, occurs in a block, its end counted. -/
def frequencies (tokens : List Token) : Array Nat × Array Nat :=
  tokens.foldl (fun (literals, distances) token =>
    match token with
    | .literal byte => (counted literals byte.toNat, distances)
    | .piece length distance => (counted literals (lengthSymbol length).symbol,
        counted distances (distanceSymbol distance).symbol))
    (counted (Array.replicate literalCount 0) Inflate.blockEnd, Array.replicate distanceCount 0)

/-! ## Codes of least size -/

/-- The nodes of a tree that is made, by number: how often what is below them occurs, how high they
are, and which nodes they hang on. -/
structure Forest where
  weights : Array Nat
  heights : Array Nat
  parents : Array Nat

namespace Forest

/-- How often what is below a node occurs. -/
def weight (forest : Forest) (node : Nat) : Nat := forest.weights[node]?.getD 0

def height (forest : Forest) (node : Nat) : Nat := forest.heights[node]?.getD 0

/-- Whether a node is joined no later than another one. -/
def isBefore (forest : Forest) (node other : Nat) : Bool :=
  forest.weight node < forest.weight other ||
    (forest.weight node = forest.weight other && forest.height node ≤ forest.height other)

/-- A heap with a node let down from a place until it comes before the nodes below it. The first node
of a heap stands at place one. -/
def sift (forest : Forest) (node : Nat) : Nat → Nat → Array Nat → Array Nat
  | 0, place, heap => heap.setIfInBounds place node
  | fuel + 1, place, heap =>
    let nodeAt (i : Nat) := heap[i]?.getD 0
    let left := 2 * place
    if heap.size ≤ left then heap.setIfInBounds place node
    else
      let below := if left + 1 < heap.size && forest.isBefore (nodeAt (left + 1)) (nodeAt left)
        then left + 1 else left
      if forest.isBefore node (nodeAt below) then heap.setIfInBounds place node
      else sift forest node fuel below (heap.setIfInBounds place (nodeAt below))

/-- The heap in which the node at a place has been let down. -/
def settle (forest : Forest) (heap : Array Nat) (place : Nat) : Array Nat :=
  forest.sift (heap[place]?.getD 0) heap.size place heap

/-- Joins the first two nodes of a heap until one is left; gives the forest, and all nodes, those that
were joined last first. -/
def joinAll : Nat → Forest → Array Nat → List Nat → Forest × List Nat
  | 0, forest, _, joined => (forest, joined)
  | fuel + 1, forest, heap, joined =>
    if heap.size ≤ 2 then (forest, heap[1]?.getD 0 :: joined)
    else
      let first := heap[1]?.getD 0
      let heap := forest.settle ((heap.setIfInBounds 1 (heap.back?.getD 0)).pop) 1
      let second := heap[1]?.getD 0
      let node := forest.weights.size
      let forest : Forest :=
        { weights := forest.weights.push (forest.weight first + forest.weight second)
          heights := forest.heights.push (max (forest.height first) (forest.height second) + 1)
          parents := ((forest.parents.push 0).setIfInBounds first node).setIfInBounds second node }
      joinAll fuel forest (forest.settle (heap.setIfInBounds 1 node) 1) (second :: first :: joined)

end Forest

/-- The numbers of code words of each length, where each step takes the longest word that is not of the
greatest length one bit further, and lets a word of the greatest length hang beside it; `excess` is
the number of words that were longer. -/
def shortened (greatest : Nat) : Nat → Nat → Array Nat → Array Nat
  | 0, _, counts => counts
  | fuel + 1, excess, counts =>
    if excess = 0 then counts
    else
      let places := (List.range greatest).reverse
      let length := (places.find? fun n => counts[n]?.getD 0 ≠ 0).getD 0
      shortened greatest fuel (excess - 2)
        (((counts.modify length (· - 1)).modify (length + 1) (· + 2)).modify greatest (· - 1))

/-- The lengths of all nodes of a tree: one more than that of the node they hang on, up to a greatest
one, with the number of those that were cut. -/
def nodeLengths (greatest : Nat) (parents : Array Nat) (nodes : List Nat) : Array Nat × Nat :=
  nodes.foldl (fun (lengths, excess) node =>
    let length := (lengths[parents[node]?.getD 0]?.getD 0) + 1
    (lengths.setIfInBounds node (min length greatest),
      if greatest < length then excess + 1 else excess))
    (Array.replicate parents.size 0, 0)

/-- The symbols that take part in a code: those that occur, and as many others that there are two at
least. -/
def coded (counts : Array Nat) : List Nat :=
  let used := (List.range counts.size).filter fun symbol => counts[symbol]?.getD 0 ≠ 0
  match used with
  | [] => [0, 1]
  | [symbol] => if symbol < 2 then [symbol, symbol + 1] else [symbol, 0]
  | _ => used

/-- The lengths of the code words, at most a greatest one, with which symbols that occur so often take
the least room. -/
def codeLengths (greatest : Nat) (counts : Array Nat) : Array Nat :=
  let size := counts.size
  let used := coded counts
  let weights := used.foldl (fun weights symbol =>
    weights.modify symbol fun n => if n = 0 then 1 else n) counts
  let forest : Forest := ⟨weights, Array.replicate size 0, Array.replicate size 0⟩
  let places := (List.range (used.length / 2)).map fun n => used.length / 2 - n
  let heap := places.foldl forest.settle (0 :: used).toArray
  let (forest, nodes) := Forest.joinAll used.length forest heap []
  let (lengths, excess) := nodeLengths greatest forest.parents (nodes.drop 1)
  let leaves := nodes.filter (· < size)
  let kept := lengths.extract 0 size
  if excess = 0 then kept
  else
    let counts := leaves.foldl (fun counts leaf => counted counts (kept[leaf]?.getD 0))
      (Array.replicate (greatest + 1) 0)
    let counts := shortened greatest excess excess counts
    let words := (List.range greatest).flatMap fun n =>
      List.replicate (counts[greatest - n]?.getD 0) (greatest - n)
    (leaves.reverse.zip words).foldl (fun lengths (leaf, length) =>
      lengths.setIfInBounds leaf length) kept

/-! ## Code words -/

/-- The bits of a number, the lowest first. -/
def bitsOf (width n : Nat) : List Bool := (List.range width).map n.testBit

/-- The code words of symbols whose code words have given lengths: in each length the words follow one
another, and each begins with its highest bit. -/
def codeWords (lengths : Array Nat) : Array (List Bool) :=
  let counts := lengths.foldl counted (Array.replicate 16 0)
  let firsts := (List.range 15).foldl (fun (firsts : Array Nat) n =>
    let shorter := if n = 0 then 0 else counts[n]?.getD 0
    firsts.push (2 * ((firsts[n]?.getD 0) + shorter))) #[0]
  (lengths.foldl (fun (words, next) length =>
    if length = 0 then (words.push [], next)
    else
      let word := next[length]?.getD 0
      (words.push (bitsOf length word).reverse, counted next length))
    ((#[] : Array (List Bool)), firsts)).1

/-- The bits of a token in two codes. -/
def tokenBits (literals distances : Array (List Bool)) : Token → List Bool
  | .literal byte => literals[byte.toNat]?.getD []
  | .piece length distance =>
    let l := lengthSymbol length
    let d := distanceSymbol distance
    (literals[l.symbol]?.getD []) ++ bitsOf l.width l.extra ++ (distances[d.symbol]?.getD []) ++
      bitsOf d.width d.extra

/-- The bits of the tokens of a block and of its end. -/
def contentBits (literals distances : Array Nat) (tokens : List Token) : List Bool :=
  let literals := codeWords literals
  let distances := codeWords distances
  tokens.flatMap (tokenBits literals distances) ++ (literals[Inflate.blockEnd]?.getD [])

/-- The number of bits of symbols that occur so often, with the bits that some of them are followed
by. -/
def bitCount (lengths counts : Array Nat) (more : Nat → Nat) : Nat :=
  (counts.foldl (fun (total, symbol) count =>
    (total + count * ((lengths[symbol]?.getD 0) + more symbol), symbol + 1)) (0, 0)).1

/-- How many bits follow the symbol of a length. -/
def lengthExtra (symbol : Nat) : Nat :=
  if symbol ≤ Inflate.blockEnd then 0
  else ((Inflate.pieceLengths[symbol - Inflate.blockEnd - 1]?).map Prod.snd).getD 0

/-- How many bits follow the symbol of a distance. -/
def distanceExtra (symbol : Nat) : Nat := ((Inflate.pieceDistances[symbol]?).map Prod.snd).getD 0

/-! ## Described codes -/

/-- The symbols for a length that is repeated: the length itself, three to six more of it, or, for no
length, three to ten or from eleven on at once. Each is followed by a number in some bits. -/
def repeatSymbols (length : Nat) (isNew : Bool) (count : Nat) : List Measured :=
  if count < (if length ≠ 0 && isNew then 4 else 3) then List.replicate count ⟨length, 0, 0⟩
  else if length ≠ 0 then
    if isNew then [⟨length, 0, 0⟩, ⟨16, count - 4, 2⟩] else [⟨16, count - 3, 2⟩]
  else if count ≤ 10 then [⟨17, count - 3, 3⟩]
  else [⟨18, count - 11, 7⟩]

/-- The most times that a length is repeated by what stands for it at once. -/
def greatestRepeat (length : Nat) (isNew : Bool) : Nat :=
  if length = 0 then 138 else if isNew then 7 else 6

/-- The symbols that describe lengths, behind a length; `count` of the current one have been met. -/
def describe (before : Option Nat) (count : Nat) : List Nat → List Measured
  | [] => []
  | length :: rest =>
    let isNew := before ≠ some length
    let count := count + 1
    if count < greatestRepeat length isNew && rest.head? = some length then
      describe before count rest
    else repeatSymbols length isNew count ++ describe (some length) 0 rest

/-- The lengths up to the last symbol that takes part in a code, and at least as many as a number. -/
def upToLast (least : Nat) (counts lengths : Array Nat) : List Nat :=
  let last := (coded counts).foldl max 0
  lengths.toList.take (max least (last + 1))

/-- A code of its own for a block: the lengths of its code words, and the bits that describe them. -/
structure OwnCode where
  literals : Array Nat
  distances : Array Nat
  description : List Bool

/-- The code of its own that takes the least room for a block. -/
def OwnCode.ofCounts (literalCounts distanceCounts : Array Nat) : OwnCode :=
  let literals := codeLengths 15 literalCounts
  let distances := codeLengths 15 distanceCounts
  let shownLiterals := upToLast 257 literalCounts literals
  let shownDistances := upToLast 1 distanceCounts distances
  let symbols := describe none 0 shownLiterals ++ describe none 0 shownDistances
  let counts := symbols.foldl (fun counts s => counted counts s.symbol) (Array.replicate 19 0)
  let lengths := codeLengths 7 counts
  let ordered := Inflate.lengthOrder.map fun symbol => lengths[symbol]?.getD 0
  let shown := ordered.take (max 4 (19 - (ordered.reverse.takeWhile (· = 0)).length))
  let words := codeWords lengths
  { literals, distances
    description := bitsOf 5 (shownLiterals.length - 257) ++ bitsOf 5 (shownDistances.length - 1) ++
      bitsOf 4 (shown.length - 4) ++ shown.flatMap (bitsOf 3) ++
      symbols.flatMap fun s => (words[s.symbol]?.getD []) ++ bitsOf s.width s.extra }

/-! ## Blocks -/

def blockTokens : Nat := 16383

/-- The lengths of the code of literals that needs no description. -/
def fixedLiterals : Array Nat :=
  (List.replicate 144 8 ++ List.replicate 112 9 ++ List.replicate 24 7 ++ List.replicate 8 8).toArray

/-- The lengths of the code of distances that needs no description. -/
def fixedDistances : Array Nat := Array.replicate 30 5

def byteBits (bytes : List UInt8) : List Bool := bytes.flatMap fun byte => bitsOf 8 byte.toNat

/-- The bits of a block, which begins behind a number of bits. -/
def blockBits (offset : Nat) (isLast : Bool) (tokens : List Token) (bytes : List UInt8) : List Bool :=
  let (literalCounts, distanceCounts) := frequencies tokens
  let own := OwnCode.ofCounts literalCounts distanceCounts
  let ownBits := own.description.length + bitCount own.literals literalCounts lengthExtra +
    bitCount own.distances distanceCounts distanceExtra
  let fixedBits := bitCount fixedLiterals literalCounts lengthExtra +
    bitCount fixedDistances distanceCounts distanceExtra
  let ownSize := (ownBits + 10) / 8
  let fixedSize := (fixedBits + 10) / 8
  let mark (kind : Nat) := isLast :: bitsOf 2 kind
  if bytes.length + 4 ≤ min ownSize fixedSize then
    mark 0 ++ List.replicate ((8 - (offset + 3) % 8) % 8) false ++ bitsOf 16 bytes.length ++
      bitsOf 16 (65535 - bytes.length) ++ byteBits bytes
  else if fixedSize ≤ ownSize then mark 1 ++ contentBits fixedLiterals fixedDistances tokens
  else mark 2 ++ own.description ++ contentBits own.literals own.distances tokens

def endsWithPiece (tokens : List Token) : Bool :=
  match tokens.getLast? with
  | some (.piece _ _) => true
  | _ => false

/-- The bits of tokens in blocks, behind a number of bits; `fuel` is more than the number of tokens. A
block that a piece fills is not the last one. -/
def blocksBits : Nat → Nat → List Token → List UInt8 → List Bool
  | 0, _, _, _ => []
  | fuel + 1, offset, tokens, bytes =>
    let held := tokens.take blockTokens
    let rest := tokens.drop blockTokens
    let isLast := rest.isEmpty && !(held.length = blockTokens && endsWithPiece held)
    let size := held.foldl (fun size token => size + token.size) 0
    let bits := blockBits offset isLast held (bytes.take size)
    if isLast then bits
    else bits ++ blocksBits fuel (offset + bits.length) rest (bytes.drop size)

/-- The bytes of bits, the lowest bit of each byte first; `fuel` is more than the number of bits. -/
def bytesOf : Nat → List Bool → List UInt8
  | 0, _ => []
  | fuel + 1, bits =>
    if bits.isEmpty then []
    else UInt8.ofNat (Inflate.number (bits.take 8)) :: bytesOf fuel (bits.drop 8)

def compress (bytes : ByteArray) : List UInt8 :=
  let tokens := tokens bytes
  let bits := blocksBits (tokens.length + 2) 0 tokens bytes.toList
  bytesOf (bits.length + 1) bits

end JavaStubs.Deflate
