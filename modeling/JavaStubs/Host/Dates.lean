import JavaStubs.Host.Inputs
import JavaStubs.Value.Moment

namespace JavaStubs.Host

open Work

/-! ## The calendar -/

/-- A point in time: the seconds since the start of 1970, and nanoseconds. -/
structure ClockTime where
  seconds : Int
  nanoseconds : Nat := 0
  deriving DecidableEq, Repr

namespace ClockTime

/-- The time that the clock of a host shows. -/
def now : ClockTime := ⟨1704164645, 0⟩

/-- The number of a day, counted from the first one of 1970. Years are counted from March on, so that
the day that leap years add is their last. -/
def dayNumber (day : Day) : Int :=
  let year : Int := if day.month ≤ 2 then (day.year : Int) - 1 else day.year
  let month := (day.month + 9) % 12
  365 * year + year / 4 - year / 100 + year / 400 + (153 * month + 2) / 5 + day.day - 719469

/-- The day of a number. -/
def dayOf (number : Int) : Day :=
  let number := number + 719468
  let era := number / 146097
  let inside := (number - era * 146097).toNat
  let year := (inside - inside / 1460 + inside / 36524 - inside / 146096) / 365
  let ofYear := inside - (365 * year + year / 4 - year / 100)
  let month := (5 * ofYear + 2) / 153
  let day := ofYear - (153 * month + 2) / 5 + 1
  let shown := if month < 10 then month + 3 else month - 9
  ⟨(era * 400 + year + (if shown ≤ 2 then 1 else 0)).toNat, shown, day⟩

/-- The number of the day of a time. -/
def days (time : ClockTime) : Int := time.seconds / 86400

def day (time : ClockTime) : Day := dayOf time.days

/-- The seconds of a time since midnight. -/
def secondOfDay (time : ClockTime) : Nat := (time.seconds % 86400).toNat

/-- The day of the week of a time, counted from Sunday. -/
def weekday (time : ClockTime) : Nat := ((time.days + 4) % 7).toNat

/-- The day of the year of a time, counted from zero. -/
def dayOfYear (time : ClockTime) : Nat := (time.days - dayNumber ⟨time.day.year, 1, 1⟩).toNat

/-- The year and the number of the week that the Thursday of a time's week lies in. -/
def week (time : ClockTime) : Nat × Nat :=
  let thursday : Int := time.days - (((time.weekday + 6) % 7 : Nat) : Int) + 3
  let year := (dayOf thursday).year
  (year, (thursday - dayNumber ⟨year, 1, 1⟩).toNat / 7 + 1)

end ClockTime

/-! ## Formats -/

/-- The names of the days of the week. -/
def weekdayNames : List String :=
  ["Sunday", "Monday", "Tuesday", "Wednesday", "Thursday", "Friday", "Saturday"]

def longMonthNames : List String :=
  ["January", "February", "March", "April", "May", "June", "July", "August", "September", "October",
    "November", "December"]

/-- How a directive of a time is filled up: its flags, and its width. -/
structure TimeShape where
  flags : List Char
  width : Option Nat

/-- What a directive tells: a number that is filled up with a character to a width, or a text. -/
inductive TimePart where
  | number (n : Int) (width : Nat) (filler : Char)
  | text (text : String)
  /-- A text for which the flag for capitals makes small letters. -/
  | zone (text : String)
  /-- Some directives. -/
  | format (format : String)

namespace ClockTime

/-- What a letter tells of a time. -/
def part? (time : ClockTime) (letter : Char) : Option TimePart :=
  let day := time.day
  let hour := time.secondOfDay / 3600
  let clockHour := if hour % 12 = 0 then 12 else hour % 12
  let weekdayName := weekdayNames.getD time.weekday ""
  let monthName := longMonthNames.getD (day.month - 1) ""
  let two (n : Nat) : Option TimePart := some (.number n 2 '0')
  match letter with
  | 'Y' => some (.number day.year 4 '0')
  | 'C' => two (day.year / 100)
  | 'y' => two (day.year % 100)
  | 'm' => two day.month
  | 'd' => two day.day
  | 'e' => some (.number day.day 2 ' ')
  | 'H' => two hour
  | 'k' => some (.number hour 2 ' ')
  | 'I' => two clockHour
  | 'l' => some (.number clockHour 2 ' ')
  | 'M' => two (time.secondOfDay / 60 % 60)
  | 'S' => two (time.secondOfDay % 60)
  | 's' => some (.number time.seconds 1 '0')
  | 'j' => some (.number (time.dayOfYear + 1) 3 '0')
  | 'u' => some (.number (if time.weekday = 0 then 7 else time.weekday) 1 '0')
  | 'w' => some (.number time.weekday 1 '0')
  | 'q' => some (.number ((day.month + 2) / 3 : Nat) 1 '0')
  | 'G' => some (.number time.week.1 4 '0')
  | 'g' => two (time.week.1 % 100)
  | 'V' => two time.week.2
  | 'U' => two ((time.dayOfYear + 7 - time.weekday) / 7)
  | 'W' => two ((time.dayOfYear + 7 - (time.weekday + 6) % 7) / 7)
  | 'a' => some (.text (String.ofList (weekdayName.toList.take 3)))
  | 'A' => some (.text weekdayName)
  | 'b' => some (.text (String.ofList (monthName.toList.take 3)))
  | 'h' => some (.text (String.ofList (monthName.toList.take 3)))
  | 'B' => some (.text monthName)
  | 'p' => some (.zone (if hour < 12 then "AM" else "PM"))
  | 'P' => some (.text (if hour < 12 then "am" else "pm"))
  | 'Z' => some (.zone "UTC")
  | 'n' => some (.text "\n")
  | 't' => some (.text "\t")
  | '%' => some (.text "%")
  | 'F' => some (.format "%Y-%m-%d")
  | 'T' => some (.format "%H:%M:%S")
  | 'X' => some (.format "%H:%M:%S")
  | 'D' => some (.format "%m/%d/%y")
  | 'x' => some (.format "%m/%d/%y")
  | 'R' => some (.format "%H:%M")
  | 'r' => some (.format "%I:%M:%S %p")
  | 'c' => some (.format "%a %b %e %H:%M:%S %Y")
  | _ => none

/-- Characters filled up in front to a width. -/
def filled (filler : Char) (width : Nat) (text : List Char) : List Char :=
  List.replicate (width - text.length) filler ++ text

/-- The character that the flags of a directive fill up with, if they say so, or nothing to fill up. -/
def fillerOf (shape : TimeShape) (usual : Char) : Option Char :=
  match (shape.flags.filter "-_0".toList.contains).getLast? with
  | some '-' => none
  | some '_' => some ' '
  | some _ => some '0'
  | none => some usual

/-- A time by a format; `fuel` is more than the length of the format, and than that of all formats that
directives stand for. -/
def shown (time : ClockTime) : Nat → List Char → List Char
  | fuel + 1, '%' :: rest =>
    let flags := rest.takeWhile "-_0^#".toList.contains
    let digits := (rest.drop flags.length).takeWhile Char.isDigit
    let behind := (rest.drop flags.length).drop digits.length
    let shape : TimeShape := ⟨flags, (String.ofList digits).toNat?⟩
    let texted (text : List Char) : List Char :=
      let text := if flags.contains '^' then text.map Char.toUpper else text
      filled ((fillerOf shape ' ').getD ' ') (shape.width.getD 0) text
    match behind with
    | 'N' :: rest =>
      let digits := filled '0' 9 (toString time.nanoseconds).toList
      (digits.take (shape.width.getD 9)) ++ time.shown fuel rest
    | 'z' :: rest => texted "+0000".toList ++ time.shown fuel rest
    | ':' :: 'z' :: rest => texted "+00:00".toList ++ time.shown fuel rest
    | ':' :: ':' :: 'z' :: rest => texted "+00:00:00".toList ++ time.shown fuel rest
    | letter :: rest =>
      match time.part? letter with
      | some (.number n width filler) =>
        let sign := if n < 0 then ['-'] else []
        let digits := Nat.toDigits 10 n.natAbs
        let found := match fillerOf shape filler with
          | none => sign ++ digits
          | some '0' => sign ++ filled '0' (max width (shape.width.getD 0) - sign.length) digits
          | some c => filled c (max width (shape.width.getD 0)) (sign ++ digits)
        found ++ time.shown fuel rest
      | some (.text text) =>
        let text := if flags.contains '#' then text.map Char.toUpper else text
        texted text.toList ++ time.shown fuel rest
      | some (.zone text) =>
        let text := if flags.contains '#' then text.map Char.toLower else text
        texted text.toList ++ time.shown fuel rest
      | some (.format format) => texted (time.shown fuel format.toList) ++ time.shown fuel rest
      | none => '%' :: flags ++ digits ++ letter :: time.shown fuel rest
    | [] => texted ('%' :: flags ++ digits)
  | fuel + 1, c :: rest => c :: time.shown fuel rest
  | _, _ => []

def byFormat (time : ClockTime) (format : String) : String :=
  String.ofList (time.shown (format.length + 64) format.toList)

/-! ## Reading -/

/-- The number that two digits spell, if it is below a bound. -/
def twoDigits? (bound : Nat) (a b : Char) : Option Nat :=
  ((String.ofList [a, b]).toNat?).filter (· < bound)

/-- The seconds that clocks are ahead of universal time, as what stands behind a time says. -/
def ahead? (text : List Char) : Option Int :=
  match text.dropWhile (· == ' ') with
  | [] => some 0
  | ['Z'] => some 0
  | ['U', 'T', 'C'] => some 0
  | sign :: a :: b :: rest => do
    guard (sign == '+' || sign == '-')
    let hours ← twoDigits? 25 a b
    let minutes ← match rest with
      | [] => some 0
      | [c, d] => twoDigits? 60 c d
      | [':', c, d] => twoDigits? 60 c d
      | _ => none
    let seconds : Int := (60 * hours + minutes) * 60
    return if sign == '-' then -seconds else seconds
  | _ => none

/-- The seconds since midnight that a text says, and the seconds that clocks are ahead. -/
def ofDay? (text : List Char) : Option (Nat × Int) :=
  match text with
  | [] => some (0, 0)
  | a :: b :: ':' :: c :: d :: ':' :: e :: f :: rest => do
    let hour ← twoDigits? 24 a b
    let minute ← twoDigits? 60 c d
    let second ← twoDigits? 61 e f
    return (3600 * hour + 60 * minute + second, ← ahead? rest)
  | a :: b :: ':' :: c :: d :: rest => do
    let hour ← twoDigits? 24 a b
    let minute ← twoDigits? 60 c d
    return (3600 * hour + 60 * minute, ← ahead? rest)
  | _ => none

/-- The time that a text names. -/
def ofText? (text : String) : Option ClockTime :=
  let chars := (Text.dropTrailing (· == ' ') text.toList).dropWhile (· == ' ')
  match chars with
  | [] => some ⟨now.days * 86400, 0⟩
  | ['n', 'o', 'w'] => some now
  | ['t', 'o', 'd', 'a', 'y'] => some now
  | '@' :: number =>
    let isNegative := number.head? = some '-'
    let (whole, fraction) := Text.cutAt (· == '.') (if isNegative then number.drop 1 else number)
    (String.ofList whole).toNat?.bind fun n =>
      let digits := String.ofList ((fraction ++ List.replicate 9 '0').take 9)
      digits.toNat?.map fun nanoseconds => ⟨if isNegative then -(n : Int) else n, nanoseconds⟩
  | a :: b :: c :: d :: '-' :: e :: f :: '-' :: g :: h :: rest => do
    let year ← (String.ofList [a, b, c, d]).toNat?
    let month ← (String.ofList [e, f]).toNat?
    let day ← (String.ofList [g, h]).toNat?
    let found : Day := ⟨year, month, day⟩
    guard found.exists_
    let rest := if rest.head?.any fun c => c == ' ' || c == 'T' then rest.drop 1 else rest
    let (seconds, ahead) ← ofDay? rest
    return ⟨86400 * dayNumber found + seconds - ahead, 0⟩
  | _ => none

end ClockTime

/-- The format that an option asks for. -/
def dateFormatOf (given : Invocation) : Option String :=
  let clock (kind : String) : String :=
    match kind with
    | "hours" => "%H"
    | "minutes" => "%H:%M"
    | "ns" => "%H:%M:%S,%N"
    | _ => "%H:%M:%S"
  match given.last? ['R', 'I', '\x01'] with
  | some 'R' => some "%a, %d %b %Y %H:%M:%S %z"
  | some 'I' =>
    let kind := (given.value? 'I').getD ""
    some (if kind.isEmpty || kind == "date" then "%Y-%m-%d" else s!"%Y-%m-%dT{clock kind}%:z")
  | some _ =>
    let kind := (given.value? '\x01').getD ""
    some (if kind == "date" then "%Y-%m-%d" else s!"%Y-%m-%d {clock kind}%:z")
  | none => none

/-- Tells the time. -/
def date : Work Unit :=
  withOptions { options "uRI" "d\x01r" [("date", 'd'), ("iso-8601", 'I'), ("reference", 'r'),
      ("rfc-email", 'R'), ("rfc-3339", '\x01'), ("universal", 'u'), ("utc", 'u')] with
      optional := ['I'] } 1 fun given => do
    let asked := given.value? 'd'
    match given.operands with
    | _ :: extra :: _ => misuse s!"extra operand {quotedName extra}" 1
    | operands =>
      let operand := operands.head?
      let isFormat := operand.all (·.startsWith "+")
      let shown := quotedName (operand.getD "")
      if !isFormat && asked.isSome then
        misuse (s!"the argument {shown} lacks a leading '+';\n" ++
          "when using an option to specify date(s), any non-option\n" ++
          "argument must be a format string beginning with '+'") 1
      else if !isFormat then complain s!"invalid date {shown}" 1
      else
        let format := (operand.map fun text => String.ofList (text.toList.drop 1)).orElse fun _ =>
          dateFormatOf given
        match asked.elim (some ClockTime.now) ClockTime.ofText? with
        | none => complain s!"invalid date {quotedName (asked.getD shown)}" 1
        | some time => say (time.byFormat (format.getD "%a %b %e %H:%M:%S UTC %Y") ++ "\n")

end JavaStubs.Host
