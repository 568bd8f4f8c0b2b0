import JavaStubs.Host.Options
import JavaStubs.Host.Regex

namespace JavaStubs.Host

open Work

/-- Why an expression has no value. -/
inductive ExpressionFault where
  | missingAfter (word : String)
  | missing
  | unexpected (word : String)
  | noInteger
  | zeroDivisor
  | unclosed (word : String)
  | regex (fault : Regex.Fault)

def ExpressionFault.message : ExpressionFault → String
  | .missingAfter word => s!"syntax error: missing argument after {quotedName word}"
  | .missing => "missing operand"
  | .unexpected word => s!"syntax error: unexpected argument {quotedName word}"
  | .noInteger => "non-integer argument"
  | .zeroDivisor => "division by zero"
  | .unclosed word => s!"syntax error: expecting ')' after {quotedName word}"
  | .regex fault => fault.message

namespace Expression

def isNull (value : String) : Bool :=
  value.isEmpty || (value.toInt? == some 0 && value.toList.all fun c => c == '0' || c == '-')

/-- The text that an expression takes from the start of another: that of its first group, or else
the length of all. -/
def taken (text pattern : String) : Except ExpressionFault String :=
  match Regex.read ⟨false, true⟩ pattern with
  | .error fault => .error (.regex fault)
  | .ok regex =>
    let hasGroup := regex.groupCount ≠ 0
    .ok (match regex.matchAt? .plain ⟨[], text.toList, []⟩ with
      | some found =>
        if hasGroup then String.ofList ((found.groups.lookup 1).getD [])
        else toString found.text.length
      | none => if hasGroup then "" else "0")

/-- The operators, by how tightly they bind. -/
def levels : List (List String) :=
  [["|"], ["&"], ["<", "<=", "=", "==", "!=", ">=", ">"], ["+", "-"], ["*", "/", "%"], [":"]]

/-- The value of two values under an operator. -/
def combine (operator a b : String) : Except ExpressionFault String := do
  let numbers : Except ExpressionFault (Int × Int) :=
    match a.toInt?, b.toInt? with
    | some x, some y => .ok (x, y)
    | _, _ => .error .noInteger
  let truth (holds : Bool) : String := if holds then "1" else "0"
  let compared (test : Ordering → Bool) : String :=
    truth (test (match a.toInt?, b.toInt? with
      | some x, some y => compare x y
      | _, _ => compare a b))
  match operator with
  | "|" => return if !isNull a then a else if isNull b then "0" else b
  | "&" => return if isNull a || isNull b then "0" else a
  | "<" => return compared (· == .lt)
  | "<=" => return compared (· != .gt)
  | "=" => return compared (· == .eq)
  | "==" => return compared (· == .eq)
  | "!=" => return compared (· != .eq)
  | ">=" => return compared (· != .lt)
  | ">" => return compared (· == .gt)
  | ":" => taken a b
  | operator =>
    let (x, y) ← numbers
    match operator with
    | "+" => return toString (x + y)
    | "-" => return toString (x - y)
    | "*" => return toString (x * y)
    | _ =>
      if y = 0 then throw .zeroDivisor
      return toString (if operator == "/" then x.tdiv y else x.tmod y)

/-- The value of the expression at the start of words, of operators that bind at least as tightly as
those of the levels, and the words behind it; `last` is the word in front. -/
def valueAt (last : String) : Nat → List (List String) → List String →
    Except ExpressionFault (String × List String)
  | 0, _, _ => .error .missing
  | fuel + 1, [], words =>
    match words with
    | [] => .error (.missingAfter last)
    | "(" :: rest => do
      let (value, rest) ← valueAt "(" fuel levels rest
      match rest with
      | ")" :: rest => return (value, rest)
      | word :: _ => throw (.unexpected word)
      | [] => throw (.unclosed (words.getLast?.getD last))
    | ")" :: _ => .error (.unexpected ")")
    | "length" :: rest => do
      let (value, rest) ← valueAt "length" fuel [] rest
      return (toString value.length, rest)
    | "substr" :: rest => do
      let (text, rest) ← valueAt "substr" fuel [] rest
      let (place, rest) ← valueAt text fuel [] rest
      let (length, rest) ← valueAt place fuel [] rest
      let part := match place.toNat?, length.toNat? with
        | some place, some length =>
          if place = 0 then "" else String.ofList ((text.toList.drop (place - 1)).take length)
        | _, _ => ""
      return (part, rest)
    | "index" :: rest => do
      let (text, rest) ← valueAt "index" fuel [] rest
      let (set, rest) ← valueAt text fuel [] rest
      let place := text.toList.findIdx? set.toList.contains
      return (toString ((place.map (· + 1)).getD 0), rest)
    | "match" :: rest => do
      let (text, rest) ← valueAt "match" fuel [] rest
      let (pattern, rest) ← valueAt text fuel [] rest
      return (← taken text pattern, rest)
    | "+" :: word :: rest => .ok (word, rest)
    | word :: rest => .ok (word, rest)
  | fuel + 1, level :: tighter, words => do
    let (value, rest) ← valueAt last fuel tighter words
    more fuel level tighter value rest
where
  /-- The value with all operators of a level that follow. -/
  more : Nat → List String → List (List String) → String → List String →
      Except ExpressionFault (String × List String)
    | fuel + 1, level, tighter, value, operator :: rest =>
      if !level.contains operator then .ok (value, operator :: rest)
      else do
        let (other, rest) ← valueAt operator fuel tighter rest
        more fuel level tighter (← combine operator value other) rest
    | _, _, _, value, words => .ok (value, words)

end Expression

/-- Prints the value of an expression, and tells whether it counts as true. -/
def expr : Work Unit := do
  let words := match (← get).call.arguments with
    | "--" :: words => words
    | words => words
  if words.isEmpty then misuse ExpressionFault.missing.message 2
  else
    match Expression.valueAt "" (16 * words.length + 32) Expression.levels words with
    | .error fault => complain fault.message 2
    | .ok (value, []) =>
      say (value ++ "\n")
      if Expression.isNull value then fail 1
    | .ok (_, word :: _) => complain (ExpressionFault.unexpected word).message 2

end JavaStubs.Host
