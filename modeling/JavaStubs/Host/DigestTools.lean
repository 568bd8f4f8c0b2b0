import JavaStubs.Digest.Sums
import JavaStubs.Text.Hexadecimal
import JavaStubs.Text.Utf8
import JavaStubs.Text.Words
import JavaStubs.Host.Inputs

/-!
The programs that tell sums and digests of files, and check them.

A line that tells a digest has the digest, a blank, a blank or a star, and the name of the file; or it names
the kind of digest first, then the file in parentheses, and then the digest. Names that would not stay in
one line are escaped, and such a line begins with a backslash.
-/
namespace JavaStubs.Host

/-- A kind of digest. -/
structure DigestKind where
  /-- What it is called in arguments. -/
  name : String
  /-- What lines call it. -/
  label : String
  /-- The number of hexadecimal digits. -/
  digits : Nat
  digest : List UInt8 → List UInt8

namespace DigestKind

/-- A kind of digest by words of `w` bits. -/
def ofMethod {w : Nat} (name label : String) (method : Digest.Method w) : DigestKind :=
  ⟨name, label, 2 * method.size, method.digest⟩

def all : List DigestKind :=
  [ofMethod "md5" "MD5" Digest.Md5.method, ofMethod "sha1" "SHA1" Digest.Secure.sha1,
    ofMethod "sha224" "SHA224" Digest.Secure.sha224, ofMethod "sha256" "SHA256" Digest.Secure.sha256,
    ofMethod "sha384" "SHA384" Digest.Secure.sha384, ofMethod "sha512" "SHA512" Digest.Secure.sha512]

/-- The digest of an octet text, in hexadecimal digits. -/
def ofOctets (kind : DigestKind) (octets : String) : String :=
  Hexadecimal.ofBytes (kind.digest (Octets.toBytes octets.toList))

end DigestKind

/-! ## Names in lines -/

/-- Whether a name has to be escaped. -/
def leavesLine (name : String) : Bool := name.toList.any fun c => c == '\\' || c == '\n' || c == '\r'

def escapedName (name : String) : String :=
  String.ofList (name.toList.flatMap fun
    | '\\' => ['\\', '\\']
    | '\n' => ['\\', 'n']
    | '\r' => ['\\', 'r']
    | c => [c])

/-- The name that escapes stand for, if they are all known. -/
def plainName? : List Char → Option (List Char)
  | '\\' :: '\\' :: rest => (plainName? rest).map ('\\' :: ·)
  | '\\' :: 'n' :: rest => (plainName? rest).map ('\n' :: ·)
  | '\\' :: 'r' :: rest => (plainName? rest).map ('\r' :: ·)
  | '\\' :: _ => none
  | c :: rest => (plainName? rest).map (c :: ·)
  | [] => some []

/-- What a line begins with that has a name in it. -/
def lineMark (name : String) : String := if leavesLine name then "\\" else ""

/-! ## Reading -/

/-- What a line says of a file. -/
structure DigestLine where
  kind : DigestKind
  digest : String
  name : String

/-- Whether a character parts the words of a line. -/
def isLineBlank (c : Char) : Bool := c == ' ' || c == '\t'

/-- Whether characters are the digits of a digest. -/
def isDigest (kind : DigestKind) (chars : List Char) : Bool :=
  chars.length = kind.digits && chars.all fun c => (Hexadecimal.value? c).isSome

/-- The name that stands in a line with a mark for escapes, or without it. -/
def nameIn? (isEscaped : Bool) (chars : List Char) : Option String :=
  (if isEscaped then plainName? chars else some chars).map String.ofList

/-- What a line says behind the label of a kind. -/
def ofLabelled? (kind : DigestKind) (isEscaped : Bool) (text : List Char) : Option DigestLine := do
  let text := if text.head? = some ' ' then text.drop 1 else text
  guard (text.head? = some '(')
  let behind := (text.drop 1).reverse
  guard (behind.contains ')')
  let name := ((behind.dropWhile (· != ')')).drop 1).reverse
  let rest := ((behind.takeWhile (· != ')')).reverse).dropWhile isLineBlank
  guard (rest.head? = some '=')
  let digest := (rest.drop 1).dropWhile isLineBlank
  guard (isDigest kind digest)
  return ⟨kind, String.ofList digest, ← nameIn? isEscaped name⟩

/-- What a line says that begins with a digest, and whether one blank parts the name from it; `isShort`
says so of lines in front. -/
def ofUnlabelled? (kind : DigestKind) (isEscaped : Bool) (isShort : Option Bool) (text : List Char) :
    Option (DigestLine × Bool) := do
  let digest := text.take kind.digits
  let rest := text.drop kind.digits
  guard (2 ≤ rest.length && isDigest kind digest && rest.head?.any isLineBlank)
  let rest := rest.drop 1
  let parted := 1 < rest.length && rest.head?.any fun c => c == ' ' || c == '*'
  guard (parted || isShort != some false)
  let short := !parted || isShort == some true
  let name ← nameIn? isEscaped (if short then rest else rest.drop 1)
  return (⟨kind, String.ofList digest, name⟩, short)

/-- What a line says, where lines may name some kinds, and others are of one kind, if there is any. -/
def DigestLine.read? (named : List DigestKind) (plain : Option DigestKind) (isShort : Option Bool)
    (line : String) : Option (DigestLine × Option Bool) :=
  let text := line.toList.dropWhile isLineBlank
  let isEscaped := text.head? = some '\\'
  let text := if isEscaped then text.drop 1 else text
  let labels := named.filter fun kind =>
    kind.label.toList.isPrefixOf text &&
      (text[kind.label.length]?.any fun c => c == ' ' || c == '(')
  match labels with
  | kind :: _ => (ofLabelled? kind isEscaped (text.drop kind.label.length)).map (·, isShort)
  | [] => do
    let kind ← plain
    guard !(kind.label.toList.isPrefixOf text)
    let (found, short) ← ofUnlabelled? kind isEscaped isShort text
    return (found, some short)

end JavaStubs.Host

namespace JavaStubs.Host

open Work

/-- What is told while digests are checked. -/
inductive CheckReport where
  /-- Every file. -/
  | all
  /-- Every file, and every line that cannot be read. -/
  | lines
  /-- Every file that fails. -/
  | failures
  | nothing
  deriving DecidableEq, Repr

/-- How digests are checked. -/
structure Checking where
  report : CheckReport
  /-- Whether lines that cannot be read make the check fail. -/
  isStrict : Bool
  /-- Whether files that do not exist are left out. -/
  skipsMissing : Bool
  /-- The kinds that lines may name. -/
  named : List DigestKind
  /-- The kind of other lines. -/
  plain : Option DigestKind

/-- What a check found. -/
structure Tally where
  /-- What the latest line calls its kind. -/
  label : String
  /-- Whether one blank parts names from digests. -/
  isShort : Option Bool
  readable : Nat := 0
  matched : Nat := 0
  malformed : Nat := 0
  unread : Nat := 0
  differing : Nat := 0

namespace Checking

def tell (name verdict : String) : Work Unit :=
  say s!"{lineMark name}{escapedName name}: {verdict}\n"

/-- Checks what a line says. -/
def checkLine (checking : Checking) (tally : Tally) (line : DigestLine) : Work Tally := do
  let isQuiet := checking.report == .nothing
  match ← textOf line.name with
  | .error cause =>
    if checking.skipsMissing && cause == .notFound then return tally
    complain s!"{shownName line.name}: {cause.wording}" 1
    if !isQuiet then tell line.name "FAILED open or read"
    return { tally with unread := tally.unread + 1 }
  | .ok octets =>
    if line.kind.ofOctets octets == line.digest.map Char.toLower then
      if checking.report == .all || checking.report == .lines then tell line.name "OK"
      return { tally with matched := tally.matched + 1 }
    if !isQuiet then tell line.name "FAILED"
    return { tally with differing := tally.differing + 1 }

/-- Checks the lines of a file. -/
def checkLines (checking : Checking) (name : String) (isOwn : Bool) (start : Tally)
    (lines : List String) : Work Tally :=
  lines.zipIdx.foldlM (fun tally (line, place) => do
    let line := if line.endsWith "\r" then String.ofList line.toList.dropLast else line
    if line.isEmpty || line.startsWith "#" then return tally
    match DigestLine.read? checking.named checking.plain tally.isShort line with
    | some (found, isShort) =>
      if isOwn && found.name == "-" then malformed tally place
      else
        let tally := { tally with
          label := found.kind.label, isShort := isShort, readable := tally.readable + 1 }
        checking.checkLine tally found
    | none => malformed tally place) start
where
  /-- Counts a line that cannot be read. -/
  malformed (tally : Tally) (place : Nat) : Work Tally := do
    if checking.report == .lines then
      sayError (s!"{(← get).call.name}: {name}: {place + 1}: " ++
        s!"improperly formatted {tally.label} checksum line\n")
    return { tally with malformed := tally.malformed + 1 }

/-- Tells what the lines of a file came to. -/
def tellTally (checking : Checking) (name : String) (tally : Tally) : Work Unit := do
  let warn (message : String) : Work Unit := do
    sayError s!"{(← get).call.name}: {message}\n"
  if tally.readable = 0 then warn s!"{name}: no properly formatted checksum lines found"
  else if checking.report != .nothing then
    let counted (n : Nat) (one many : String) : Work Unit := do
      if n = 1 then warn s!"WARNING: 1 {one}" else if n ≠ 0 then warn s!"WARNING: {n} {many}"
    counted tally.malformed "line is improperly formatted" "lines are improperly formatted"
    counted tally.unread "listed file could not be read" "listed files could not be read"
    counted tally.differing "computed checksum did NOT match" "computed checksums did NOT match"
    if checking.skipsMissing && tally.matched = 0 then warn s!"{name}: no file was verified"
  let strays := checking.isStrict && tally.malformed ≠ 0
  if tally.matched = 0 || tally.differing ≠ 0 || tally.unread ≠ 0 || strays then fail 1

/-- Checks the digests that files list; `isShort` and `label` are those of lines in front. -/
def check (checking : Checking) (label : String) (names : List String) : Work Unit := do
  let _ ← (orInput names).foldlM (fun (last : Tally) name => do
    let isOwn := name == "-"
    let shown := if isOwn then "'standard input'" else shownName name
    match ← textOf name with
    | .error .isDirectory =>
      complain s!"{shown}: read error" 1
      return last
    | .error cause =>
      complain s!"{shown}: {cause.wording}" 1
      return last
    | .ok text =>
      let found ← checking.checkLines shown isOwn ⟨last.label, last.isShort, 0, 0, 0, 0, 0⟩
        (linesOf text)
      checking.tellTally shown found
      return found) ⟨label, none, 0, 0, 0, 0, 0⟩

end Checking

/-! ## Telling digests -/

/-- How digests are told. -/
structure DigestStyle where
  /-- Whether lines name the kind. -/
  isLabelled : Bool
  /-- Whether a star stands in front of names. -/
  isStarred : Bool
  /-- What ends a line; names are not escaped unless it is a line end. -/
  lineEnd : Char

def DigestStyle.line (style : DigestStyle) (kind : DigestKind) (name digest : String) : String :=
  let escapes := style.lineEnd == '\n' && leavesLine name
  let mark := if escapes then "\\" else ""
  let name := if escapes then escapedName name else name
  let star := if style.isStarred then "*" else " "
  let shown :=
    if style.isLabelled then s!"{kind.label} ({name}) = {digest}" else s!"{digest} {star}{name}"
  (mark ++ shown).push style.lineEnd

/-- The words for options that tell and check digests. -/
def digestWords : List (String × Char) :=
  [("binary", 'b'), ("check", 'c'), ("ignore-missing", '\x01'), ("quiet", '\x02'), ("status", '\x03'),
    ("strict", '\x04'), ("tag", '\x05'), ("text", 't'), ("warn", 'w'), ("zero", 'z')]

def reportOf (given : Invocation) : CheckReport :=
  match given.last? ['w', '\x02', '\x03'] with
  | some 'w' => .lines
  | some '\x02' => .failures
  | some _ => .nothing
  | none => .all

/-- Why options for digests do not go together. -/
def digestConflict? (given : Invocation) : Option String :=
  let checks := given.has 'c'
  let unchecked (letter : Char) (word : String) : Option String :=
    if given.has letter && !checks then
      some s!"the --{word} option is meaningful only when verifying checksums"
    else none
  let report := reportOf given
  if given.has 'z' && checks then
    some "the --zero option is not supported when verifying checksums"
  else if given.has '\x05' && checks then
    some "the --tag option is meaningless when verifying checksums"
  else if (given.has 'b' || given.has 't') && checks then
    some "the --binary and --text options are meaningless when verifying checksums"
  else
    unchecked '\x01' "ignore-missing" <|> (if report == .nothing then unchecked '\x03' "status" else none)
      <|> (if report == .lines then unchecked 'w' "warn" else none)
      <|> (if report == .failures then unchecked '\x02' "quiet" else none)
      <|> unchecked '\x04' "strict"

/-- Tells or checks digests of a kind. -/
def digestProgram (name : String) : Work Unit :=
  match DigestKind.all.find? (·.name == name) with
  | none => return
  | some kind =>
    withOptions (options "bctwz\x01\x02\x03\x04\x05" "" digestWords) 1 fun given => do
      let isText := given.last? ['t', 'b', '\x05'] == some 't'
      if isText && given.has '\x05' then
        misuse "--tag does not support --text mode" 1
      else if let some message := digestConflict? given then misuse message 1
      else if given.has 'c' then
        let checking : Checking :=
          ⟨reportOf given, given.has '\x04', given.has '\x01', [kind], some kind⟩
        checking.check kind.label given.operands
      else
        let isStarred := given.last? ['b', 't', '\x05'] == some 'b'
        let style : DigestStyle := ⟨given.has '\x05', isStarred, if given.has 'z' then '\x00' else '\n'⟩
        forTexts given.operands 1 fun name octets =>
          say (style.line kind name (kind.ofOctets octets))

/-! ## Sums -/

/-- The number of blocks of a size that a text takes. -/
def blockCount (size : Nat) (text : String) : Nat := (text.length + size - 1) / size

/-- A sum of bytes in five digits, with the number of blocks of 1024 bytes. -/
def turningLine (octets : String) : String :=
  let digits := toString (Digest.turningSum (Octets.toBytes octets.toList))
  let zeros := String.ofList (List.replicate (5 - digits.length) '0')
  let count := toString (blockCount 1024 octets)
  let blanks := String.ofList (List.replicate (5 - count.length) ' ')
  s!"{zeros}{digits} {blanks}{count}"

/-- A sum of bytes, with the number of blocks of 512 bytes. -/
def foldingLine (octets : String) : String :=
  s!"{Digest.foldingSum (Octets.toBytes octets.toList)} {blockCount 512 octets}"

/-- A checksum, with the number of bytes. -/
def remainderLine (octets : String) : String :=
  s!"{Digest.remainderSum (Octets.toBytes octets.toList)} {octets.length}"

/-- Tells sums of files; a name is shown if there are any. -/
def tellSums (line : String → String) (lineEnd : Char) (names : List String) : Work Unit :=
  forTexts names 1 fun name octets =>
    say ((line octets ++ if names.isEmpty then "" else s!" {name}").push lineEnd)

def sum : Work Unit :=
  withOptions (options "rs" "" [("sysv", 's')]) 1 fun given =>
    tellSums (if given.last? ['r', 's'] == some 's' then foldingLine else turningLine) '\n' given.operands

/-- The sums that files can have besides digests. -/
def plainSums : List (String × (String → String)) :=
  [("bsd", turningLine), ("sysv", foldingLine), ("crc", remainderLine)]

/-- The names of all sums and digests. -/
def sumNames : List String := plainSums.map Prod.fst ++ DigestKind.all.map (·.name)

/-- Checksums of files, or digests of a kind. -/
def cksum : Work Unit := do
  let words := digestWords ++ [("algorithm", 'a'), ("length", 'l'), ("untagged", '\x06')]
  match (options "bctwz\x01\x02\x03\x04\x05\x06" "al" words).read (← get).call.arguments with
  | .error fault => misuse fault.message 1
  | .ok given =>
    let asked := (given.options.filter (·.1 == 'a')).map Prod.snd
    match asked.find? fun name => !sumNames.contains name with
    | some name =>
      misuse (ChoiceFault.message ⟨false, name, "--algorithm", sumNames.map ([·])⟩) 1
    | none =>
      let name := asked.getLast?.getD "crc"
      let isSum := (plainSums.lookup name).isSome
      let isText := given.last? ['t', 'b'] == some 't'
      let isLabelled := given.last? ['\x05', '\x06'] != some '\x06'
      if given.has 'l' then complain "--length is only supported with --algorithm=blake2b" 1
      else if given.has 'c' && isSum && !asked.isEmpty then
        complain "--check is not supported with --algorithm=\x7bbsd,sysv,crc\x7d" 1
      else if isText && isLabelled && !given.has 'c' then
        misuse "--text mode is only supported with --untagged" 1
      else if let some message := digestConflict? given then misuse message 1
      else
        let lineEnd := if given.has 'z' then '\x00' else '\n'
        let kind := DigestKind.all.find? (·.name == name)
        if given.has 'c' then
          let named := (kind.map ([·])).getD DigestKind.all
          let checking : Checking := ⟨reportOf given, given.has '\x04', given.has '\x01', named, kind⟩
          checking.check ((kind.map (·.label)).getD "CRC") given.operands
        else match plainSums.lookup name, kind with
          | some line, _ => tellSums line lineEnd given.operands
          | none, some kind =>
            let style : DigestStyle := ⟨isLabelled, given.last? ['b', 't'] == some 'b', lineEnd⟩
            forTexts given.operands 1 fun name octets =>
              say (style.line kind name (kind.ofOctets octets))
          | none, none => return

end JavaStubs.Host
