import JavaStubs.Host.Process

/-!
Conditions stated in words: on texts, on numbers and on files, joined by `!`, `-a`, `-o` and
parentheses. Whether a word is an operator depends on the words behind it, so a condition of few
words is always understood.
-/
namespace JavaStubs.Host

/-- What an operator is to the words around it. -/
inductive OperatorKind where
  | unary
  | binary
  | not
  | both
  | either
  | opening
  | closing
  deriving DecidableEq, Repr

/-- The kind of an operator. -/
def operatorKind? (word : String) : Option OperatorKind :=
  match word with
  | "!" => some .not
  | "-a" => some .both
  | "-o" => some .either
  | "(" => some .opening
  | ")" => some .closing
  | word =>
    if ["-r", "-w", "-x", "-e", "-f", "-d", "-c", "-b", "-p", "-u", "-g", "-k", "-s", "-t", "-z",
      "-n", "-h", "-O", "-G", "-L", "-S"].contains word then some .unary
    else if ["=", "!=", "<", ">", "-eq", "-ne", "-ge", "-gt", "-le", "-lt", "-nt", "-ot",
      "-ef"].contains word then some .binary
    else none

/-- Why a condition is not understood. -/
inductive ConditionFault where
  | unexpected (word : String)
  | noArgument (word : String)
  | unclosed
  | noNumber (word : String)
  deriving DecidableEq, Repr

/-- The wording of a fault in scripts. -/
def ConditionFault.scriptMessage : ConditionFault → String
  | .unexpected word => if word.isEmpty then "unexpected operator" else s!"{word}: unexpected operator"
  | .noArgument word => s!"{word}: argument expected"
  | .unclosed => "closing paren expected"
  | .noNumber word => s!"Illegal number: {word}"

def ConditionFault.message : ConditionFault → String
  | .unexpected word => s!"extra argument {quotedName word}"
  | .noArgument word => s!"missing argument after {quotedName word}"
  | .unclosed => "')' expected"
  | .noNumber word => s!"invalid integer {quotedName word}"

/-- The whole number that a word spells; blanks around it do not count. -/
def wordNumber? (word : String) : Option Int :=
  let isBlank (c : Char) := c == ' ' || ('\x09' ≤ c && c ≤ '\x0d')
  let text := word.toList.dropWhile isBlank
  let (negative, text) : Bool × List Char := match text with
    | '-' :: rest => (true, rest)
    | '+' :: rest => (false, rest)
    | text => (false, text)
  let digits := text.takeWhile Char.isDigit
  if digits.isEmpty || !(text.dropWhile Char.isDigit).all isBlank then none
  else
    let n : Int := (String.ofList digits).toNat?.getD 0
    let n := if negative then -n else n
    if n < -(Nat.pow 2 63) || Nat.pow 2 63 ≤ n then none else some n

namespace Condition

def number (word : String) : Except ConditionFault Int :=
  match wordNumber? word with
  | some n => .ok n
  | none => .error (.noNumber word)

/-- What lies at the end of a path, a link followed or not. -/
def look (disk : Disk) (purpose : FileTree.Purpose) (name : String) : Option (Location × Entry) :=
  match disk.follow purpose (Octets.toText name) with
  | .ok (.entry location entry) => some (location, entry)
  | _ => none

/-- Whether an entry may be run, or entered. -/
def isRunnable (disk : Disk) (found : Location × Entry) : Bool := disk.grants .run found.1

/-- Whether a condition on one word holds. -/
def holdsUnary (disk : Disk) (operator word : String) : Except ConditionFault Bool :=
  let found := look disk .look word
  match operator with
  | "-z" => .ok word.isEmpty
  | "-n" => .ok (!word.isEmpty)
  | "-t" => (number word).map fun _ => false
  | "-f" => .ok (found.any (·.2.isFile))
  | "-d" => .ok (found.any (·.2.isDirectory))
  | "-s" => .ok (found.any fun (_, entry) => entry != .sink && Disk.size entry != 0)
  | "-r" => .ok (found.any fun (location, _) => disk.grants .read location)
  | "-w" => .ok (found.any fun (location, _) => disk.grants .write location)
  | "-x" => .ok (found.any (isRunnable disk))
  | "-c" => .ok (found.any (·.2 == .sink))
  | "-b" => .ok false
  | "-p" => .ok false
  | "-u" => .ok false
  | "-g" => .ok false
  | "-k" => .ok false
  | "-S" => .ok false
  | "-h" => .ok (isLink word)
  | "-L" => .ok (isLink word)
  | _ => .ok found.isSome
where
  /-- Whether a path ends in a link. -/
  isLink (word : String) : Bool :=
    match look disk .entry word with
    | some (_, .link _) => true
    | _ => false

/-- Whether a condition on two numbers holds. -/
def holdsNumbers (a b : String) (test : Int → Int → Bool) : Except ConditionFault Bool := do
  let x ← number a
  let y ← number b
  return test x y

/-- Whether a condition on two words holds. -/
def holdsBinary (disk : Disk) (a operator b : String) : Except ConditionFault Bool :=
  let left := (look disk .look a).map Prod.fst
  let right := (look disk .look b).map Prod.fst
  match operator with
  | "=" => .ok (a == b)
  | "!=" => .ok (a != b)
  | "<" => .ok (a < b)
  | ">" => .ok (b < a)
  | "-eq" => holdsNumbers a b (· == ·)
  | "-ne" => holdsNumbers a b (· != ·)
  | "-ge" => holdsNumbers a b (fun x y => y ≤ x)
  | "-gt" => holdsNumbers a b (fun x y => y < x)
  | "-le" => holdsNumbers a b (fun x y => x ≤ y)
  | "-lt" => holdsNumbers a b (fun x y => x < y)
  | "-nt" => .ok false
  | "-ot" => .ok false
  | _ => .ok (left.isSome && left == right)

/-- What a word is, from the words that begin with it: nothing for an operand. -/
def kindAt : List String → Option OperatorKind
  | [] => none
  | word :: rest =>
    match operatorKind? word with
    | some .unary =>
      match rest with
      | [] => none
      | [_] => some .unary
      | next :: _ => if operatorKind? next = some .binary then none else some .unary
    | some .opening => if rest.isEmpty then none else some .opening
    | kind => kind

/-- Whether the condition at the start of words holds, and the words from its last one on; `fuel` is
more than twice their number. -/
def either (disk : Disk) : Nat → List String → Except ConditionFault (Bool × List String)
  | 0, words => .ok (false, words)
  | fuel + 1, words => do
    let (holds, words) ← both fuel words
    match kindAt (words.drop 1) with
    | some .either =>
      let (others, words) ← either disk fuel (words.drop 2)
      return (holds || others, words)
    | _ => return (holds, words)
where
  /-- Conditions joined by `-a`. -/
  both : Nat → List String → Except ConditionFault (Bool × List String)
    | 0, words => .ok (false, words)
    | fuel + 1, words => do
      let (holds, words) ← negated fuel words
      match kindAt (words.drop 1) with
      | some .both =>
        let (others, words) ← both fuel (words.drop 2)
        return (holds && others, words)
      | _ => return (holds, words)
  /-- A condition behind any number of `!`. -/
  negated : Nat → List String → Except ConditionFault (Bool × List String)
    | 0, words => .ok (false, words)
    | fuel + 1, words => do
      match kindAt words with
      | some .not =>
        let (holds, after) ← negated fuel (if words.length ≤ 1 then words.drop 1 else words.tail)
        return (!holds, if words.length ≤ 1 then words else after)
      | _ => primary fuel words
  /-- A condition on one or two words, or one in parentheses. -/
  primary : Nat → List String → Except ConditionFault (Bool × List String)
    | 0, words => .ok (false, words)
    | fuel + 1, words => do
      match kindAt words, words with
      | _, [] => return (false, [])
      | some .opening, _ :: inner =>
        if kindAt inner = some .closing then return (false, inner)
        let (holds, after) ← either disk fuel inner
        if kindAt (after.drop 1) ≠ some .closing then throw .unclosed
        return (holds, after.drop 1)
      | some .unary, operator :: rest =>
        match rest with
        | [] => throw (.noArgument operator)
        | word :: _ => return (← holdsUnary disk operator word, rest)
      | _, word :: rest =>
        match kindAt rest, rest with
        | some .binary, operator :: more =>
          match more with
          | [] => throw (.noArgument operator)
          | other :: _ => return (← holdsBinary disk word operator other, more)
        | _, _ => return (!word.isEmpty, words)

/-- Whether the condition that all words state holds. -/
def general (disk : Disk) (words : List String) : Except ConditionFault Bool := do
  let (holds, after) ← either disk (4 * words.length + 8) words
  match after with
  | word :: _ :: _ => throw (.unexpected word)
  | _ => return holds

/-- Whether the condition that words state holds; no words state none that does. Of few words the
operator in the middle, outer parentheses and a `!` in front are seen first. -/
def holds (disk : Disk) (words : List String) : Except ConditionFault Bool :=
  match words with
  | [] => .ok false
  | [a, operator, b] =>
    if operatorKind? operator = some .binary then holdsBinary disk a operator b
    else if a == "(" && b == ")" then general disk [operator]
    else if a == "!" then (holds disk [operator, b]).map (!·)
    else general disk words
  | [a, b, c, d] =>
    if a == "(" && d == ")" then general disk [b, c]
    else if a == "!" then (holds disk [b, c, d]).map (!·)
    else general disk words
  | words => general disk words

end Condition
end JavaStubs.Host
