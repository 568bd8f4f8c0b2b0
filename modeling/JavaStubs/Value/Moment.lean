import JavaStubs.Text.Words

/-!
Moments, as configurations name them: a day, a time of day, or both, with or without the distance
from universal time. `text` is a moment as it is written, and `shown` one as messages show it inside
other values.
-/
namespace JavaStubs

/-- A day of a year. -/
structure Day where
  year : Nat
  month : Nat
  day : Nat
  deriving DecidableEq, Repr

/-- A time of day, to the microsecond. -/
structure DayTime where
  hour : Nat
  minute : Nat
  second : Nat
  microsecond : Nat
  deriving DecidableEq, Repr

/-- A day, a time of day, or both with the minutes by which clocks are ahead of universal time, if
that is known. -/
inductive Moment where
  | date (day : Day)
  | clock (time : DayTime)
  | full (day : Day) (time : DayTime) (ahead : Option Int)
  deriving DecidableEq, Repr

/-- A number in at least some digits. -/
def inDigits (width n : Nat) : String :=
  let digits := toString n
  Text.repeated "0" (width - digits.length) ++ digits

namespace Day

/-- How many days a month has. -/
def inMonth (year month : Nat) : Nat :=
  if month = 2 then
    if year % 4 = 0 && (year % 100 != 0 || year % 400 = 0) then 29 else 28
  else if [4, 6, 9, 11].contains month then 30 else 31

/-- Whether there is such a day. -/
def exists_ (day : Day) : Bool :=
  1 ≤ day.year && day.year ≤ 9999 && 1 ≤ day.month && day.month ≤ 12 && 1 ≤ day.day &&
    day.day ≤ inMonth day.year day.month

/-- A day as it is written. -/
def text (day : Day) : String :=
  inDigits 4 day.year ++ "-" ++ inDigits 2 day.month ++ "-" ++ inDigits 2 day.day

def numbers (day : Day) : List Nat := [day.year, day.month, day.day]

end Day

namespace DayTime

/-- A time of day as it is written: the microseconds are left out if there are none. -/
def text (time : DayTime) : String :=
  inDigits 2 time.hour ++ ":" ++ inDigits 2 time.minute ++ ":" ++ inDigits 2 time.second ++
    if time.microsecond = 0 then "" else "." ++ inDigits 6 time.microsecond

def numbers (time : DayTime) : List Nat :=
  [time.hour, time.minute] ++
    if time.microsecond != 0 then [time.second, time.microsecond]
    else if time.second != 0 then [time.second] else []

end DayTime

namespace Moment

/-- A distance from universal time as it is written. -/
def distanceText (ahead : Int) : String :=
  let minutes := ahead.natAbs
  (if ahead < 0 then "-" else "+") ++ inDigits 2 (minutes / 60) ++ ":" ++ inDigits 2 (minutes % 60)

/-- A moment as it is written. -/
def text : Moment → String
  | .date day => day.text
  | .clock time => time.text
  | .full day time ahead =>
    day.text ++ " " ++ time.text ++ (ahead.map distanceText).getD ""

def arguments (numbers : List Nat) : String := Text.joined ", " (numbers.map toString)

/-- A distance from universal time as messages show it: a whole number of days, which is negative for
clocks that are behind, and seconds. -/
def shownDistance (ahead : Int) : String :=
  if ahead = 0 then "datetime.timezone.utc"
  else
    let days := if ahead < 0 then "days=-1, " else ""
    let seconds := (if ahead < 0 then ahead + 1440 else ahead) * 60
    s!"datetime.timezone(datetime.timedelta({days}seconds={seconds}))"

/-- A moment as messages show it. -/
def shown : Moment → String
  | .date day => s!"datetime.date({arguments day.numbers})"
  | .clock time => s!"datetime.time({arguments time.numbers})"
  | .full day time ahead =>
    let zone := (ahead.map fun ahead => ", tzinfo=" ++ shownDistance ahead).getD ""
    s!"datetime.datetime({arguments (day.numbers ++ time.numbers)}{zone})"

end Moment
end JavaStubs
