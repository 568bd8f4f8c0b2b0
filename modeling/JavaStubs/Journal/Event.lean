import JavaStubs.Value.Display
import JavaStubs.Value.JsonWriter
import JavaStubs.Value.Moment

/-!
Points in time in universal time, as journals stamp and file them: `stamp` is the ISO form to the
millisecond and `dayName` the name of the day. `ofText` reads one from ISO form, where a clock may be
ahead of universal time or behind it.
-/
namespace JavaStubs

namespace Day

/-- The day after a day. -/
def next (day : Day) : Day :=
  if day.day < inMonth day.year day.month then { day with day := day.day + 1 }
  else if day.month < 12 then ⟨day.year, day.month + 1, 1⟩
  else ⟨day.year + 1, 1, 1⟩

/-- The day before a day. -/
def previous (day : Day) : Day :=
  if 1 < day.day then { day with day := day.day - 1 }
  else if 1 < day.month then ⟨day.year, day.month - 1, inMonth day.year (day.month - 1)⟩
  else ⟨day.year - 1, 12, 31⟩

end Day

/-- A point in time, to the microsecond. -/
structure Instant where
  day : Day
  time : DayTime
  deriving DecidableEq, Repr

namespace Instant

def dayName (instant : Instant) : String :=
  toString instant.day.year ++ inDigits 2 instant.day.month ++ inDigits 2 instant.day.day

/-- The point in time in ISO form, cut to the millisecond. -/
def stamp (instant : Instant) : String :=
  let time := instant.time
  instant.day.text ++ "T" ++ inDigits 2 time.hour ++ ":" ++ inDigits 2 time.minute ++ ":" ++
    inDigits 2 time.second ++ "." ++ inDigits 3 (time.microsecond / 1000) ++ "+00:00"

/-! ## Reading -/

/-- The point in time at which clocks that are some minutes ahead of universal time show a day and a
time of day. -/
def ofClock (day : Day) (time : DayTime) (ahead : Int) : Instant :=
  let minutes := (time.hour * 60 + time.minute : Nat) - ahead
  let day := if minutes < 0 then day.previous else if 1440 ≤ minutes then day.next else day
  let minutes := (minutes % 1440).toNat
  ⟨day, { time with hour := minutes / 60, minute := minutes % 60 }⟩

/-- The number that decimal digits spell. -/
def numberOf (digits : List Char) : Nat :=
  digits.foldl (fun n c => 10 * n + (c.toNat - '0'.toNat)) 0

/-- The microseconds that the digits behind a decimal point spell. -/
def microsecondsOf (digits : List Char) : Nat :=
  numberOf ((digits ++ List.replicate 6 '0').take 6)

/-- The minutes that a text such as `+02:00` says that clocks are ahead of universal time. -/
def aheadOf : List Char → Int
  | '+' :: text => minutesOf text
  | '-' :: text => - minutesOf text
  | _ => 0
where
  /-- The minutes in hours and minutes. -/
  minutesOf (text : List Char) : Int :=
    let digits := text.filter Text.isDigitAscii
    numberOf (digits.take 2) * 60 + numberOf ((digits.drop 2).take 2)

/-- The point in time that a text in ISO form names; parts that are missing are zero. -/
def ofText (text : String) : Instant :=
  let isDigit := Text.isDigitAscii
  let (date, rest) := (text.toList.take 10, text.toList.drop 11)
  let isTime (c : Char) := isDigit c || c == ':'
  let time := rest.takeWhile isTime
  let (fraction, rest) :=
    match rest.dropWhile isTime with
    | '.' :: rest => (rest.takeWhile isDigit, rest.dropWhile isDigit)
    | rest => ([], rest)
  let part (cs : List Char) (start width : Nat) := numberOf ((cs.drop start).take width)
  ofClock ⟨part date 0 4, part date 5 2, part date 8 2⟩
    ⟨part time 0 2, part time 3 2, part time 6 2, microsecondsOf fraction⟩ (aheadOf rest)

end Instant
end JavaStubs

/-! ## Events

Journal events. An event records one invocation: what was done to which interface, how it ended,
and in case of a failure the kind of it. `check` accepts exactly such values; `line` is the line
that a journal keeps of an event.
-/
namespace JavaStubs.Event

def operations : List String := ["source", "archive"]

/-- The end of an invocation that did what it should. -/
def outcomeOk : String := "ok"

/-- The end of an invocation that was given up without an error. -/
def outcomeSoftFailure : String := "soft-failure"

/-- The end of an invocation in an error. -/
def outcomeFailed : String := "failed"

/-- The ways in which an invocation ends. -/
def outcomes : List String := [outcomeOk, outcomeSoftFailure, outcomeFailed]

def requiredFields : List String := ["operation", "interface", "outcome"]

/-- Why a value is no event. -/
inductive Fault where
  /-- It has no fields at all. -/
  | noTable
  /-- Required fields are absent or vacant. -/
  | lacks (names : List String)
  /-- A field that must be one of several words is a list or a table. -/
  | noWord
  | unknownOperation (value : Value)
  | unknownOutcome (value : Value)
  /-- A failure without its kind. -/
  | noKind
  deriving Repr

/-- The wording of a fault. -/
def Fault.message : Fault → String
  | .noTable => ""
  | .lacks names => "Journal event lacks " ++ Text.joined ", " names
  | .noWord => ""
  | .unknownOperation value => s!"Unknown operation '{value.plain}'"
  | .unknownOutcome value => s!"Unknown outcome '{value.plain}'"
  | .noKind => "Failed invocations must carry a kind"

/-- Whether a field is absent or vacant. -/
def isVacant (fields : Fields) (name : String) : Bool :=
  match Fields.get? fields name with
  | some value => value.isVacant
  | none => true

/-- Whether a value is one of several words; a list or a table cannot be asked for. -/
def isWordOf (words : List String) : Value → Except Fault Bool
  | .text word => .ok (words.contains word)
  | .list _ => .error .noWord
  | .table _ => .error .noWord
  | _ => .ok false

/-- The fields of a value that is an event, or what is wrong with it. -/
def check (value : Value) : Except Fault Fields := do
  let .table fields := value | throw .noTable
  let missing := requiredFields.filter (isVacant fields)
  unless missing.isEmpty do throw (.lacks missing)
  let operation := (Fields.get? fields "operation").getD .null
  let outcome := (Fields.get? fields "outcome").getD .null
  unless ← isWordOf operations operation do throw (.unknownOperation operation)
  unless ← isWordOf outcomes outcome do throw (.unknownOutcome outcome)
  if outcome.same (.text outcomeFailed) && isVacant fields "kind" then throw .noKind
  return fields

/-- An event with the time of its recording, unless it brings one of its own. -/
def stamped (now : Instant) (fields : Fields) : Value :=
  .table (Fields.putAll [("ts", .text now.stamp)] fields)

/-- The line that is kept of an event. -/
def line (now : Instant) (fields : Fields) : String := Json.writeSorted (stamped now fields) ++ "\n"

end JavaStubs.Event
