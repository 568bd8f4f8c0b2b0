import JavaStubs.Host.FileSearch

namespace JavaStubs.Host

open Work

/-- A file whose state is told. -/
structure ToldFile where
  name : String
  location : Location
  entry : Entry

/-- The kind of a file, in words. -/
def kindWords : Entry → String
  | .directory => "directory"
  | .link _ => "symbolic link"
  | .sink => "character special file"
  | entry => if fileSize entry = 0 then "regular empty file" else "regular file"

/-- The number of the kind of a file, as it stands in front of its mode. -/
def kindNumber : Entry → Nat
  | .directory => 0o040000
  | .link _ => 0o120000
  | .sink => 0o020000
  | _ => 0o100000

namespace ToldFile

/-- The mode of a file; a link has all rights. -/
def mode (file : ToldFile) (disk : Disk) : Nat :=
  match file.entry with
  | .link _ => 0o777
  | _ => disk.modeAt file.location

/-- What a directive tells of a file. -/
def told (file : ToldFile) (disk : Disk) (shape : Shape) (letter : Char) : String :=
  let plain (kept : List Char) : Shape := { shape with flags := shape.flags.filter kept.contains }
  let text (text : String) : String := (plain ['-']).text text
  let number (n : Nat) : String := (plain ['-', '0']).based 10 false n
  match letter with
  | 'n' => text file.name
  | 'N' =>
    let target := match file.entry with
      | .link target => s!" -> {quotedName (Octets.ofText target)}"
      | _ => ""
    text (quotedName file.name ++ target)
  | 's' => number (if file.entry.isDirectory then 4096 else fileSize file.entry)
  | 'a' => (plain ['-', '0', '#']).based 8 false (file.mode disk)
  | 'A' =>
    let kind := if file.entry.isFile then '-' else Entry.kindLetter file.entry
    text (String.ofList [kind] ++ modeLetters (file.mode disk))
  | 'f' => (plain ['-', '0', '#']).based 16 false (kindNumber file.entry + file.mode disk)
  | 'F' => text (kindWords file.entry)
  | 'h' => number (namesOf disk file.location file.entry)
  | 'b' => number (if file.entry.isDirectory then 8 else fileBlocks file.entry)
  | 'B' => number 512
  | 'o' => number 4096
  | 'u' => number 0
  | 'g' => number 0
  | 'U' => text "root"
  | 'G' => text "root"
  | _ => "?"

/-- Tells of a file what a format says; `fuel` is more than the length of the format. -/
def tell (file : ToldFile) (takesEscapes : Bool) : Nat → List Char → Work Unit
  | 0, _ => return
  | _ + 1, [] => return
  | fuel + 1, '%' :: rest => do
    let flags := rest.takeWhile "'-+ #0".toList.contains
    let behind := rest.drop flags.length
    let width := behind.takeWhile Char.isDigit
    let behind := behind.drop width.length
    let (precision, behind) : Option (List Char) × List Char := match behind with
      | '.' :: more => (some (more.takeWhile Char.isDigit), more.dropWhile Char.isDigit)
      | behind => (none, behind)
    let numberOf (digits : List Char) : Nat := (String.ofList digits).toNat?.getD 0
    let isPlain := behind.length = rest.length
    match behind with
    | c :: more =>
      if c != '%' then
        say (file.told (← get).disk ⟨flags, numberOf width, precision.map numberOf⟩ c)
        file.tell takesEscapes fuel more
      else if isPlain then
        say "%"
        file.tell takesEscapes fuel more
      else refuse (rest.take (rest.length - more.length))
    | [] => if isPlain then say "%" else refuse rest
  | fuel + 1, '\\' :: rest => do
    if !takesEscapes then
      say "\\"
      file.tell takesEscapes fuel rest
    else match rest with
      | [] =>
        warn "backslash at end of format"
        say "\\"
      | c :: more =>
        let (octal, digits, behind) := leadingNumber 8 3 0 0 rest
        let (hexadecimal, taken, behindMark) := leadingNumber 16 2 0 0 more
        if digits ≠ 0 then
          say (String.singleton (Char.ofNat (octal % 256)))
          file.tell takesEscapes fuel behind
        else if c == 'x' && taken ≠ 0 then
          say (String.singleton (Char.ofNat hexadecimal))
          file.tell takesEscapes fuel behindMark
        else
          match if c == '"' then some c else letterEscape? c with
          | some found => say (String.singleton found)
          | none =>
            warn s!"unrecognized escape '\\{c}'"
            say (String.singleton c)
          file.tell takesEscapes fuel more
  | fuel + 1, c :: rest => do
    say (String.singleton c)
    file.tell takesEscapes fuel rest
where
  /-- Ends because a directive is not understood. -/
  refuse (directive : List Char) : Work Unit := do
    let shown := quotedName (String.ofList ('%' :: directive))
    complain s!"{shown}: invalid directive" 1
  /-- Warns of something in the format. -/
  warn (message : String) : Work Unit := do
    sayError s!"{(← get).call.name}: warning: {message}\n"

end ToldFile

/-- Tells the state of files by a format; without one, nothing is told. -/
def stat : Work Unit :=
  withOptions (options "Lft" "c\x01" [("dereference", 'L'), ("file-system", 'f'), ("format", 'c'),
      ("printf", '\x01'), ("terse", 't')]) 1 fun given => do
    let format := (given.options.filter fun (letter, _) => letter == 'c' || letter == '\x01').getLast?
    if given.operands.isEmpty then misuse "missing operand" 1
    else given.operands.forM fun name => do
      match ← entryAt (if given.has 'L' then .look else .entry) name with
      | .error cause => complain s!"cannot statx {quotedName name}: {cause.wording}" 1
      | .ok (location, entry) =>
        let file : ToldFile := ⟨name, location, entry⟩
        match format with
        | none => return
        | some (letter, text) =>
          file.tell (letter == '\x01') (text.length + 1) text.toList
          if letter == 'c' then say "\n"

end JavaStubs.Host
