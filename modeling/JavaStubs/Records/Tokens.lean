import JavaStubs.Records.Script
import JavaStubs.Records.Value

/-!
The tokens of scripts that work on records. A slash begins a pattern or is a division, by what stands in
front of it. Where the characters of a script make no token, there is one that says why, and none behind
it.
-/
namespace JavaStubs.Records

/-- A token. -/
inductive Token where
  | number (x : Binary64) (written : String)
  | text (text : String)
  | regex (text : String)
  /-- A name, and whether a parenthesis follows at once. -/
  | name (name : String) (calls : Bool)
  | word (word : String)
  | builtin (function : Builtin) (name : String)
  | mark (mark : String)
  | newline
  | fault (message : String)
  deriving Repr

instance : Inhabited Token := ⟨.newline⟩

namespace Token

def words : List String :=
  ["BEGIN", "END", "if", "else", "while", "for", "do", "break", "continue", "next", "nextfile", "exit",
    "return", "delete", "in", "function", "getline", "print", "printf"]

/-- The names of the functions that are built in. -/
def builtins : List (String × Builtin) :=
  [("length", .length), ("substr", .substr), ("index", .index), ("split", .split), ("sub", .sub),
    ("gsub", .gsub), ("match", .match_), ("sprintf", .sprintf), ("sin", .sin), ("cos", .cos),
    ("atan2", .atan2), ("exp", .exp), ("log", .log), ("sqrt", .sqrt), ("int", .int), ("rand", .rand),
    ("srand", .srand), ("toupper", .toupper), ("tolower", .tolower), ("close", .close),
    ("system", .system), ("fflush", .fflush)]

def marks : List String :=
  ["&&", "||", "!~", "==", "<=", ">=", "!=", "++", "--", "+=", "-=", "*=", "/=", "%=", "^=", ">>",
    "\x7b", "\x7d", "(", ")", "[", "]", ";", ",", "+", "-", "*", "/", "%", "^", "!", ">", "<", "|", "?",
    ":", "~", "$", "="]

/-- How a token is told in messages. -/
def shown : Token → String
  | .number _ written => written
  | .text chars => "\"" ++ chars ++ "\""
  | .regex chars => "/" ++ chars ++ "/"
  | .name chars _ => chars
  | .word chars => chars
  | .builtin _ chars => chars
  | .mark chars => chars
  | .newline => "end of line"
  | .fault _ => ""

/-- Whether a slash behind a token is a division. -/
def precedesDivision : Token → Bool
  | .number _ _ => true
  | .text _ => true
  | .regex _ => true
  | .name _ _ => true
  | .word chars => chars == "getline"
  | .mark chars => [")", "]", "++", "--"].contains chars
  | _ => false

end Token

/-- Whether a character may stand in a name. -/
def isNameChar (c : Char) : Bool := c.isAlphanum || c == '_'

/-! ## Texts -/

/-- The character of a letter behind a backslash in a text. -/
def textEscape? : Char → Option Char
  | '"' => some '"'
  | '\\' => some '\\'
  | 'a' => some '\x07'
  | 'b' => some '\x08'
  | 'f' => some '\x0c'
  | 'n' => some '\n'
  | 'r' => some '\r'
  | 't' => some '\t'
  | 'v' => some '\x0b'
  | _ => none

/-- The character for an escape, behind its backslash, and what follows it. -/
def escapeIn (text : List Char) : Option (Char × List Char) :=
  match text with
  | [] => none
  | c :: rest =>
    match textEscape? c with
    | some found => some (found, rest)
    | none =>
      let (base, digits, count) := if c == 'x' then (16, rest, 2) else (8, text, 3)
      let (value, taken, after) := Host.leadingNumber base count 0 0 digits
      if taken = 0 then none else some (Char.ofNat (value % 256), after)

/-- A text with its escapes replaced; a backslash in front of anything else stays. `fuel` is at least
its length. -/
def withoutEscapes : Nat → List Char → List Char
  | fuel + 1, '\\' :: '\n' :: rest => withoutEscapes fuel rest
  | fuel + 1, '\\' :: rest =>
    match escapeIn rest with
    | some (c, rest) => c :: withoutEscapes fuel rest
    | none => '\\' :: (rest.take 1 ++ withoutEscapes fuel (rest.drop 1))
  | fuel + 1, c :: rest => c :: withoutEscapes fuel rest
  | _, _ => []

def unescaped (text : String) : String :=
  String.ofList (withoutEscapes (text.length + 1) text.toList)

/-- The inside of a text up to its quotation mark, and what is behind; nothing if the mark is missing on
the line. -/
def quotedAt : List Char → Option (List Char × List Char)
  | [] => none
  | '"' :: rest => some ([], rest)
  | '\n' :: _ => none
  | '\\' :: c :: rest => (quotedAt rest).map fun (inner, rest) => ('\\' :: c :: inner, rest)
  | c :: rest => (quotedAt rest).map fun (inner, rest) => (c :: inner, rest)

/-- The inside of a pattern up to its slash, and what is behind. A slash in brackets, which may be
open and may just have been opened, does not end it. -/
def patternAt (isOpen isFirst : Bool) : List Char → Option (List Char × List Char)
  | [] => none
  | '\n' :: _ => none
  | '\\' :: '/' :: rest =>
    (patternAt isOpen false rest).map fun (inner, rest) => ('/' :: inner, rest)
  | '\\' :: c :: rest =>
    (patternAt isOpen false rest).map fun (inner, rest) => ('\\' :: c :: inner, rest)
  | c :: rest =>
    if c == '/' && !isOpen then some ([], rest)
    else
      let opens := !isOpen && c == '['
      let closes := isOpen && c == ']' && !isFirst
      let stillFirst := opens || (isOpen && isFirst && c == '^')
      (patternAt ((isOpen || opens) && !closes) stillFirst rest).map fun (inner, rest) =>
        (c :: inner, rest)

/-! ## Tokens -/

/-- The number at the start of a text as it is written, and what is behind. -/
def numeralAt (text : List Char) : Option (List Char × List Char) :=
  let whole := text.takeWhile Char.isDigit
  let rest := text.dropWhile Char.isDigit
  let (fraction, rest) := match rest with
    | '.' :: more => ('.' :: more.takeWhile Char.isDigit, more.dropWhile Char.isDigit)
    | rest => ([], rest)
  if whole.isEmpty && fraction.length ≤ 1 then none
  else
    let written := whole ++ fraction
    match rest with
    | e :: more =>
      let sign := more.takeWhile fun c => c == '+' || c == '-'
      let digits := (more.drop sign.length).takeWhile Char.isDigit
      if (e == 'e' || e == 'E') && sign.length ≤ 1 && !digits.isEmpty then
        some (written ++ e :: sign ++ digits, more.drop (sign.length + digits.length))
      else some (written, rest)
    | [] => some (written, rest)

/-- The token at the start of a text that does not begin with a blank, and what is behind; nothing is
behind a fault. -/
def tokenAt (previous : Token) (line : Nat) (text : List Char) : Token × List Char :=
  match text with
  | [] => (.newline, [])
  | '\n' :: rest => (.newline, rest)
  | '"' :: rest =>
    match quotedAt rest with
    | some (inner, rest) => (.text (unescaped (String.ofList inner)), rest)
    | none =>
      let start := String.ofList (text.takeWhile (· != '\n'))
      (.fault s!"line {line}: runaway string constant {start} ...", [])
  | c :: rest =>
    if isNameChar c && !c.isDigit then
      let name := String.ofList (text.takeWhile isNameChar)
      let rest := text.dropWhile isNameChar
      let token :=
        if Token.words.contains name then .word name
        else match Token.builtins.lookup name with
          | some function => .builtin function name
          | none => .name name (rest.head? == some '(')
      (token, rest)
    else if c == '/' && !previous.precedesDivision then
      match patternAt false false rest with
      | some (inner, rest) => (.regex (String.ofList inner), rest)
      | none =>
        let start := String.ofList (text.takeWhile (· != '\n'))
        (.fault s!"line {line}: runaway regular expression {start} ...", [])
    else match numeralAt text with
      | some (written, rest) =>
        let written := String.ofList written
        (.number (numberIn written) written, rest)
      | none =>
        match Token.marks.find? fun mark => mark.toList.isPrefixOf text with
        | some mark => (.mark mark, text.drop mark.length)
        | none => (.fault s!"{line}: unexpected character '{c}'", [])

/-- The tokens of a text with the numbers of their lines; `fuel` is more than its length. -/
def tokensFrom : Nat → Token → Nat → List Char → List (Token × Nat)
  | 0, _, _, _ => []
  | _ + 1, _, _, [] => []
  | fuel + 1, previous, line, '\\' :: '\n' :: rest => tokensFrom fuel previous (line + 1) rest
  | fuel + 1, previous, line, '\\' :: '\r' :: '\n' :: rest => tokensFrom fuel previous (line + 1) rest
  | fuel + 1, previous, line, '#' :: rest =>
    tokensFrom fuel previous line (rest.dropWhile (· != '\n'))
  | fuel + 1, previous, line, c :: rest =>
    if c == ' ' || c == '\t' || c == '\r' || c == '\x0b' || c == '\x0c' then
      tokensFrom fuel previous line rest
    else
      let (token, after) := tokenAt previous line (c :: rest)
      let taken := (c :: rest).take (rest.length + 1 - after.length)
      (token, line) :: tokensFrom fuel token (line + taken.count '\n') after

/-- The tokens of a script with the numbers of their lines. -/
def tokensOf (script : String) : List (Token × Nat) :=
  tokensFrom (script.length + 1) .newline 1 script.toList

end JavaStubs.Records
