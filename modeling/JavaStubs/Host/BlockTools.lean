import JavaStubs.Host.Inputs

namespace JavaStubs.Host

open Work

/-! ## Copying blocks -/

/-- What a copy of blocks is asked for. -/
structure BlockCopy where
  source : Option String
  target : Option String
  inputSize : Nat
  outputSize : Nat
  /-- Whether blocks are written as they were read. -/
  direct : Bool
  /-- How many octets are passed over in the input and in the output. -/
  skipped : Nat
  sought : Nat
  /-- How many blocks, or octets, are copied at most. -/
  limit : Option (Nat ⊕ Nat)
  conversions : List String
  status : Option String

/-- Why a copy of blocks is refused. -/
inductive BlockFault where
  | operand (text : String)
  | number (text : String)
  | conversion (text : String)
  | flag (isInput : Bool) (text : String)
  | status (text : String)
  deriving DecidableEq, Repr

/-- The wording of a fault, and whether it refers to the program's help. -/
def BlockFault.message : BlockFault → String × Bool
  | .operand text => (s!"unrecognized operand {quotedName text}", true)
  | .number text => (s!"invalid number: {quotedName text}", false)
  | .conversion text => (s!"invalid conversion: {quotedName text}", true)
  | .flag isInput text =>
    let side := if isInput then "input" else "output"
    (s!"invalid {side} flag: {quotedName text}", true)
  | .status text => (s!"invalid status level: {quotedName text}", true)

namespace BlockCopy

/-- A number with a letter for its size, or a product of such numbers; the result also says whether
it counts octets. -/
def number? (text : String) : Option (Nat × Bool) :=
  let isOctets := text.endsWith "B" && ((text.toList.dropLast.getLast?).map Char.isDigit).getD false
  let plain := if isOctets then String.ofList text.toList.dropLast else text
  let parts := (Text.fieldsOf 'x' plain).map Sizes.read?
  (parts.foldlM (fun (n : Nat) (part : Option Nat) => part.map (n * ·)) 1).map (·, isOctets)

def conversionNames : List String :=
  ["lcase", "ucase", "swab", "sync", "noerror", "notrunc", "excl", "nocreat", "fdatasync", "fsync",
    "sparse"]

def flagNames : List String :=
  ["append", "direct", "directory", "dsync", "sync", "fullblock", "nonblock", "noatime", "nocache",
    "noctty", "nofollow", "count_bytes", "skip_bytes", "seek_bytes"]

/-- The copy that operands ask for. -/
def ofOperands (operands : List String) : Except BlockFault BlockCopy := do
  let named ← operands.mapM fun text =>
    let (name, value) := Text.cutAt (· == '=') text.toList
    if text.toList.contains '=' then .ok (String.ofList name, String.ofList value)
    else .error (.operand text)
  let last? (name : String) : Option String := (named.reverse.find? (·.1 == name)).map Prod.snd
  let known := ["if", "of", "ibs", "obs", "bs", "cbs", "skip", "iseek", "seek", "oseek", "count",
    "conv", "iflag", "oflag", "status"]
  for (name, value) in named do
    if !known.contains name then throw (.operand (name ++ "=" ++ value))
    if ["ibs", "obs", "bs", "cbs"].contains name then
      match number? value with
      | some (n, _) => if n = 0 then throw (.number value)
      | none => throw (.number value)
    if ["skip", "iseek", "seek", "oseek", "count"].contains name && (number? value).isNone then
      throw (.number value)
    if name == "conv" then
      for word in Text.fieldsOf ',' value do
        if !conversionNames.contains word then throw (.conversion word)
    if name == "iflag" || name == "oflag" then
      for word in Text.fieldsOf ',' value do
        if !flagNames.contains word then throw (.flag (name == "iflag") word)
    if name == "status" && !(["none", "noxfer", "progress"].contains value) then
      throw (.status value)
  let words (name : String) : List String :=
    (named.filter (·.1 == name)).flatMap fun (_, value) => Text.fieldsOf ',' value
  let size (name : String) (standard : Nat) : Nat :=
    (((last? name).bind number?).map Prod.fst).getD standard
  let inputSize := size "bs" (size "ibs" 512)
  let outputSize := size "bs" (size "obs" 512)
  let octets (names : List String) (flag : Bool) (block : Nat) : Option (Nat ⊕ Nat) :=
    ((names.findSome? last?).bind number?).map fun (n, isOctets) =>
      if isOctets || flag then .inr n else .inl (n * block)
  let inOctets (found : Option (Nat ⊕ Nat)) : Nat := match found with
    | some (.inl n) => n
    | some (.inr n) => n
    | none => 0
  let conversions := words "conv"
  let isDirect := (last? "bs").isSome &&
    !(["lcase", "ucase", "swab"].any conversions.contains)
  return {
    source := last? "if"
    target := last? "of"
    inputSize
    outputSize
    direct := isDirect
    skipped := inOctets (octets ["skip", "iseek"] ((words "iflag").contains "skip_bytes") inputSize)
    sought := inOctets (octets ["seek", "oseek"] ((words "oflag").contains "seek_bytes") outputSize)
    limit := octets ["count"] ((words "iflag").contains "count_bytes") 1
    conversions
    status := last? "status" }

def swapped : List Char → List Char
  | a :: b :: rest => b :: a :: swapped rest
  | rest => rest

def converted (copy : BlockCopy) (octets : List Char) : List Char :=
  let octets := if copy.conversions.contains "swab" then swapped octets else octets
  let octets := if copy.conversions.contains "ucase" then octets.map Char.toUpper else octets
  if copy.conversions.contains "lcase" then octets.map Char.toLower else octets

/-- The octets that are copied of those that can be read. -/
def taken (copy : BlockCopy) (octets : List Char) : List Char :=
  match copy.limit with
  | some (.inl blocks) => octets.take (blocks * copy.inputSize)
  | some (.inr count) => octets.take count
  | none => octets

/-- A count of whole and of partial blocks. -/
def records (size count : Nat) : String :=
  s!"{count / size}+{if count % size = 0 then 0 else 1}"

def octetCount (n : Nat) : String :=
  if n = 1 then "1 byte" else s!"{n} bytes"

end BlockCopy

/-- The name of a file, or what its place is called. -/
def streamName (name : Option String) (standard : String) : String := name.getD standard

/-- Copies blocks. -/
def dd : Work Unit := do
  match (options "" "" []).read (← get).call.arguments with
  | .error fault => misuse fault.message 1
  | .ok given =>
    match BlockCopy.ofOperands given.operands with
    | .error fault =>
      let (message, refers) := fault.message
      if refers then misuse message 1 else complain message 1
    | .ok copy => read copy
where
  /-- Opens the input. -/
  read (copy : BlockCopy) : Work Unit := do
    let all : Except OsCause String ← match copy.source with
      | some name => textOf name
      | none => textOf "-"
    match all with
    | .error .isDirectory =>
      if ← opened copy then
        let name := copy.source.getD "standard input"
        complain s!"error reading {quotedName name}: {OsCause.isDirectory.wording}" 1
        tell copy 0 0
    | .error cause =>
      let name := copy.source.getD ""
      complain s!"failed to open {quotedName name}: {cause.wording}" 1
    | .ok text => if ← opened copy then move copy text.toList
  /-- Whether the output can be opened. -/
  opened (copy : BlockCopy) : Work Bool := do
    match copy.target with
    | none => return true
    | some name =>
      let refusal : Option OsCause := match ← follow .write name with
        | .error cause => some cause
        | .ok (.entry _ .directory) => some .isDirectory
        | .ok (.entry _ _) => if copy.conversions.contains "excl" then some .alreadyExists else none
        | .ok (.vacant _) => if copy.conversions.contains "nocreat" then some .notFound else none
      match refusal with
      | none => return true
      | some cause =>
        complain s!"failed to open {quotedName name}: {cause.wording}" 1
        return false
  /-- Copies octets. -/
  move (copy : BlockCopy) (octets : List Char) : Work Unit := do
    let behind := octets.drop copy.skipped
    if octets.length < copy.skipped then
      let name := streamName copy.source "standard input"
      sayError s!"{(← get).call.name}: {shownName name}: cannot skip to specified offset\n"
    let taken := copy.taken behind
    if copy.source.isNone then
      modify fun working => { working with
        input := String.ofList (behind.drop taken.length) }
    let count := taken.length
    let padded := if copy.conversions.contains "sync" && count % copy.inputSize ≠ 0
      then taken ++ List.replicate (copy.inputSize - count % copy.inputSize) '\x00' else taken
    let data := String.ofList (copy.converted padded)
    match copy.target with
    | none => say data
    | some name =>
      let old := match ← textOf name with
        | .ok text => text.toList
        | .error _ => []
      let front := old.take copy.sought ++ List.replicate (copy.sought - old.length) '\x00'
      let rest := if copy.conversions.contains "notrunc"
        then old.drop (copy.sought + data.length) else []
      let _ ← writeText name (String.ofList front ++ data ++ String.ofList rest) false
    tell copy count data.length
  /-- Tells how much was copied. -/
  tell (copy : BlockCopy) (count written : Nat) : Work Unit := do
    if copy.status != some "none" then
      let size := if copy.direct then copy.inputSize else copy.outputSize
      sayError (s!"{BlockCopy.records copy.inputSize count} records in\n" ++
        s!"{BlockCopy.records size written} records out\n")
      if copy.status != some "noxfer" then
        sayError s!"{BlockCopy.octetCount written} copied, 0 s, Infinity B/s\n"

/-! ## Splitting -/

/-- What the parts of a text are. -/
inductive PartKind where
  | lines (count : Nat)
  | octets (count : Nat)
  /-- Whole lines of at most so many octets. -/
  | lineOctets (count : Nat)
  /-- So many parts of about the same size. -/
  | chunks (count : Nat)
  | lineChunks (count : Nat)
  /-- Lines dealt out in turn. -/
  | dealt (count : Nat)

/-- Pieces of a list, of a number of elements each; `fuel` is at least the length. -/
def piecesOfLength {α : Type} (size : Nat) : Nat → List α → List (List α)
  | 0, _ => []
  | _ + 1, [] => []
  | fuel + 1, items => items.take size :: piecesOfLength size fuel (items.drop size)

/-- Lines with their ends; the last one may be without one. -/
def linesWithEnds (ending : Char) (text : List Char) : List (List Char) :=
  let fields := Text.fields (· == ending) text
  fields.dropLast.map (· ++ [ending]) ++ ((fields.getLast?).filter (!·.isEmpty)).toList

/-- Lines put together as long as they are not longer than a size; longer ones are cut. `fuel` is at
least the number of octets, and `part` is the part so far. -/
def packedLines (size : Nat) : Nat → List Char → List (List Char) → List (List Char)
  | 0, part, _ => [part]
  | _ + 1, part, [] => if part.isEmpty then [] else [part]
  | fuel + 1, part, line :: rest =>
    if part.length + line.length ≤ size then packedLines size fuel (part ++ line) rest
    else if !part.isEmpty then part :: packedLines size fuel [] (line :: rest)
    else line.take size :: packedLines size fuel [] (line.drop size :: rest)

/-- Chunks of whole lines: each ends with the first line that reaches its last octet. `fuel` is at
least the number of lines and of chunks, and `done` octets stand in front. -/
def chunkedLines (count size total : Nat) : Nat → Nat → Nat → List Char → List (List Char) →
    List (List Char)
  | 0, _, _, part, _ => [part]
  | fuel + 1, number, done, part, lines =>
    let last := if number = count then total else number * size
    if number < count && last ≤ done then
      part :: chunkedLines count size total fuel (number + 1) done [] lines
    else match lines with
      | [] => [part]
      | line :: rest =>
        chunkedLines count size total fuel number (done + line.length) (part ++ line) rest

/-- The parts of a text. -/
def PartKind.parts (kind : PartKind) (ending : Char) (text : List Char) : List (List Char) :=
  let lines := linesWithEnds ending text
  match kind with
  | .lines count => (piecesOfLength count lines.length lines).map List.flatten
  | .octets count => piecesOfLength count text.length text
  | .lineOctets count => packedLines count (2 * text.length + 2) [] lines
  | .chunks count =>
    let size := max text.length count / count
    (List.range count).map fun n =>
      let rest := text.drop (n * size)
      if n + 1 = count then rest else rest.take size
  | .lineChunks count =>
    let found := chunkedLines count (max text.length count / count) text.length
      (lines.length + count + 1) 1 0 [] lines
    found ++ List.replicate (count - found.length) []
  | .dealt count =>
    (List.range count).map fun n =>
      ((lines.zipIdx.filter fun (_, place) => place % count = n).map Prod.fst).flatten

/-- The name of a part: digits of a place in an alphabet. -/
def placeName (alphabet : List Char) (length place : Nat) : List Char :=
  match length with
  | 0 => []
  | length + 1 =>
    placeName alphabet length (place / alphabet.length) ++
      [(alphabet[place % alphabet.length]?).getD ' ']

/-- The name of a part whose length grows: names that begin with the last character are longer.
`fuel` bounds the growth. -/
def growingName (alphabet : List Char) : Nat → Nat → Nat → List Char
  | 0, length, place => placeName alphabet length place
  | fuel + 1, length, place =>
    let base := alphabet.length
    let room := Nat.pow base length - Nat.pow base (length - 1)
    if place < room then placeName alphabet length place
    else (alphabet.getLast?).toList ++ growingName alphabet fuel (length + 1) (place - room)

/-- Writes the parts of a text to files. -/
def split : Work Unit := do
  modify fun working => { working with
    call := { working.call with arguments := working.call.arguments.map lineCount } }
  withOptions
    { options "dxeu\x02" "abClnt\x01" [("suffix-length", 'a'), ("bytes", 'b'), ("line-bytes", 'C'),
        ("lines", 'l'), ("number", 'n'), ("separator", 't'), ("numeric-suffixes", 'd'),
        ("hex-suffixes", 'x'), ("elide-empty-files", 'e'), ("additional-suffix", '\x01'),
        ("verbose", '\x02'), ("unbuffered", 'u')] with
      optional := ['d', 'x'] } 1 fun given => do
    let ways := given.options.filter fun (letter, _) => "bCln".toList.contains letter
    match given.operands with
    | _ :: _ :: extra :: _ => misuse s!"extra operand {quotedName extra}" 1
    | operands =>
      match ways with
      | _ :: _ :: _ => misuse "cannot split in more than one way" 1
      | ways =>
        let (letter, text) := ways.head?.getD ('l', "1000")
        match kindOf letter text with
        | none =>
          let counted := match letter with
            | 'l' => "lines"
            | 'n' => "chunks"
            | _ => "bytes"
          complain s!"invalid number of {counted}: {quotedName text}" 1
        | some (kind, only) =>
          work given kind only (operands.head?.getD "-") ((operands[1]?).getD "x")
where
  /-- A dash and a number, as an option for a number of lines. -/
  lineCount (argument : String) : String :=
    match argument.toList with
    | '-' :: c :: rest => if (c :: rest).all Char.isDigit then "-l" ++ String.ofList (c :: rest)
      else argument
    | _ => argument
  /-- The kind of parts that an option asks for, and the only part to show. -/
  kindOf (letter : Char) (text : String) : Option (PartKind × Option Nat) := do
    if letter == 'n' then
      let (isLines, isDealt, fields) := match Text.fieldsOf '/' text with
        | "l" :: rest => (true, false, rest)
        | "r" :: rest => (false, true, rest)
        | rest => (false, false, rest)
      let (only, count) ← match fields with
        | [count] => do some (none, ← count.toNat?.filter (· ≠ 0))
        | [only, count] => do
          let only ← only.toNat?.filter (· ≠ 0)
          some (some only, ← count.toNat?.filter (only ≤ ·))
        | _ => none
      return (if isLines then .lineChunks count else if isDealt then .dealt count
        else .chunks count, only)
    else
      let count ← (Sizes.read? text).filter (· ≠ 0)
      return (match letter with
        | 'b' => .octets count
        | 'C' => .lineOctets count
        | _ => .lines count, none)
  /-- Writes the parts. -/
  work (given : Invocation) (kind : PartKind) (only : Option Nat) (source start : String) :
      Work Unit := do
    match ← textOf source with
    | .error .isDirectory => complain s!"{shownName source}: {OsCause.isDirectory.wording}" 1
    | .error cause =>
      complain s!"cannot open {quotedName source} for reading: {cause.wording}" 1
    | .ok text =>
      let ending := match given.value? 't' with
        | some "\\0" => '\x00'
        | some text => text.toList.head?.getD '\n'
        | none => '\n'
      let parts := kind.parts ending text.toList
      match only with
      | some number => say (String.ofList ((parts[number - 1]?).getD []))
      | none =>
        let parts := if given.has 'e' then parts.filter (!·.isEmpty) else parts
        let alphabet := match given.last? ['d', 'x'] with
          | some 'd' => "0123456789".toList
          | some _ => "0123456789abcdef".toList
          | none => "abcdefghijklmnopqrstuvwxyz".toList
        let first := ((given.last? ['d', 'x']).bind given.value?).bind (·.toNat?)
        let asked := ((given.value? 'a').bind (·.toNat?)).filter (· ≠ 0)
        let grows := asked.isNone && first.isNone
        let length := asked.getD 2
        let behind := (given.value? '\x01').getD ""
        parts.zipIdx.forM fun (part, place) => do
          let place := place + first.getD 0
          if (← get).code = 0 then
            if !grows && Nat.pow alphabet.length length ≤ place then
              complain "output file suffixes exhausted" 1
            else
              let name := if grows then growingName alphabet 20 length place
                else placeName alphabet length place
              let name := start ++ String.ofList name ++ behind
              if given.has '\x02' then say s!"creating file {quotedName name}\n"
              if let .error cause ← writeText name (String.ofList part) false then
                complain s!"{shownName name}: {cause.wording}" 1

/-! ## Sizes of files -/

/-- How a new size is found from the old one. -/
def newSize (mark : Option Char) (n old : Nat) : Nat :=
  match mark with
  | some '+' => old + n
  | some '-' => old - n
  | some '<' => min old n
  | some '>' => max old n
  | some '/' => old / n * n
  | some '%' => (old + n - 1) / n * n
  | _ => n

/-- Sets the sizes of files. -/
def truncate : Work Unit :=
  withOptions (options "co" "rs" [("no-create", 'c'), ("io-blocks", 'o'), ("reference", 'r'),
    ("size", 's')]) 1 fun given => do
    let text := (given.value? 's').getD ""
    let (mark, digits) : Option Char × String := match text.toList with
      | c :: rest => if "+-<>/%".toList.contains c then (some c, String.ofList rest) else (none, text)
      | [] => (none, text)
    let base ← match given.value? 'r' with
      | none => pure none
      | some name =>
        match ← textOf name with
        | .ok text => pure (some text.length)
        | .error cause =>
          complain s!"cannot stat {quotedName name}: {cause.wording}" 1
          pure none
    if (← get).code ≠ 0 then return
    if !given.has 's' && !given.has 'r' then
      misuse "you must specify either '--size' or '--reference'" 1
    else if given.has 's' && (Sizes.read? digits).isNone then
      complain s!"Invalid number: {quotedName text}" 1
    else if (mark == some '/' || mark == some '%') && Sizes.read? digits == some 0 then
      complain "division by zero" 1
    else if given.operands.isEmpty then misuse "missing file operand" 1
    else
      given.operands.forM fun name => do
        let old := match ← textOf name with
          | .ok text => some text
          | .error _ => none
        if !(old.isNone && given.has 'c') then
          let text := old.getD ""
          let from_ := base.getD text.length
          let size := if given.has 's'
            then newSize mark ((Sizes.read? digits).getD 0) from_ else from_
          let new := String.ofList (text.toList.take size) ++
            String.ofList (List.replicate (size - text.length) '\x00')
          if let .error cause ← writeText name new false then
            complain s!"cannot open {quotedName name} for writing: {cause.wording}" 1

end JavaStubs.Host
