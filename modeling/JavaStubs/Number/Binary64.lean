/-!
Double precision numbers, held as their 64 bits and read and written in exact arithmetic. `ofDecimal`
rounds a decimal numeral to the nearest double, a tie to the even one. `text` writes the fewest
decimal digits that read back as the same double, the nearest of those, in positional notation from
0.0001 up to 10^16 and in exponent notation elsewhere.
-/
namespace JavaStubs

/-- A double precision number, by its bits: sign, eleven bits of exponent, 52 of fraction. -/
structure Binary64 where
  bits : Nat
  deriving DecidableEq, Repr

namespace Binary64

/-- What a double stands for: `(-1)^negative * mantissa * 2^exponent` when it is finite. -/
inductive Reading where
  | notANumber
  | infinite (negative : Bool)
  | finite (negative : Bool) (mantissa : Nat) (exponent : Int)
  deriving DecidableEq, Repr

def reading (x : Binary64) : Reading :=
  let negative := x.bits / Nat.pow 2 63 % 2 == 1
  let exponent : Nat := x.bits / Nat.pow 2 52 % 2048
  let fraction := x.bits % Nat.pow 2 52
  if exponent == 2047 then
    if fraction == 0 then .infinite negative else .notANumber
  else if exponent == 0 then .finite negative fraction (-1074)
  else .finite negative (Nat.pow 2 52 + fraction) ((exponent : Int) - 1075)

/-- The bits of a magnitude, with its sign. -/
def withSign (negative : Bool) (magnitude : Nat) : Binary64 :=
  ⟨(if negative then Nat.pow 2 63 else 0) + magnitude⟩

def infinity (negative : Bool) : Binary64 := withSign negative (2047 * Nat.pow 2 52)

def notANumber : Binary64 := withSign false (2047 * Nat.pow 2 52 + Nat.pow 2 51)

/-- A quotient rounded to the nearest whole number, a tie to the even one. -/
def roundEven (num den : Nat) : Nat :=
  let q := num / den
  let r := num % den
  if 2 * r < den then q
  else if den < 2 * r then q + 1
  else if q % 2 == 0 then q else q + 1

/-- A quotient times a power of two, as a quotient. -/
def scaleTwo (num den : Nat) (power : Int) : Nat × Nat :=
  if 0 ≤ power then (num * Nat.pow 2 power.toNat, den) else (num, den * Nat.pow 2 (-power).toNat)

/-- The double nearest to a positive quotient. -/
def ofQuotient (negative : Bool) (num den : Nat) : Binary64 :=
  let estimate : Int := (num.log2 : Int) - den.log2 - 53
  let (n, d) := scaleTwo num den (-estimate)
  let exponent := max (if n / d < Nat.pow 2 53 then estimate else estimate + 1) (-1074)
  let (n, d) := scaleTwo num den (-exponent)
  let mantissa := roundEven n d
  let (mantissa, exponent) :=
    if mantissa == Nat.pow 2 53 then (Nat.pow 2 52, exponent + 1) else (mantissa, exponent)
  if exponent > 971 then infinity negative
  else if mantissa < Nat.pow 2 52 then withSign negative mantissa
  else withSign negative ((exponent + 1075).toNat * Nat.pow 2 52 + (mantissa - Nat.pow 2 52))

/-- The double nearest to `digits * 10^power`, with a sign. -/
def ofDecimal (negative : Bool) (digits : Nat) (power : Int) : Binary64 :=
  if digits == 0 then withSign negative 0
  else
    let size : Int := (Nat.toDigits 10 digits).length + power
    if size > 310 then infinity negative
    else if size < -330 then withSign negative 0
    else if 0 ≤ power then ofQuotient negative (digits * Nat.pow 10 power.toNat) 1
    else ofQuotient negative digits (Nat.pow 10 (-power).toNat)

/-- The least power of ten, at most `fuel` steps above `k`, that lifts a quotient to one or more. -/
def liftingPower (num den : Nat) : Nat → Nat → Nat
  | 0, k => k
  | fuel + 1, k => if num * Nat.pow 10 k < den then liftingPower num den fuel (k + 1) else k

/-- The decimal exponent of a positive quotient: `10^e ≤ num / den < 10^(e+1)`. -/
def decimalExponent (num den : Nat) : Int :=
  if den ≤ num then ((Nat.toDigits 10 (num / den)).length : Int) - 1
  else -(liftingPower num den 330 0 : Int)

/-- The reals that round to a double: `m * 2^q` with the two ends of its interval, all as
numerators over one denominator, and whether the ends belong to it. -/
structure Interval where
  low : Nat
  mid : Nat
  high : Nat
  den : Nat
  closed : Bool

def interval (m : Nat) (q : Int) : Interval :=
  let narrow := m == Nat.pow 2 52 && q > -1074
  let low := if narrow then 4 * m - 1 else 4 * m - 2
  let (scale, den) := scaleTwo 1 1 (q - 2)
  ⟨low * scale, 4 * m * scale, (4 * m + 2) * scale, den, m % 2 == 0⟩

/-- Whether `d * 10^power` lies in an interval. -/
def Interval.holds (i : Interval) (d : Nat) (power : Int) : Bool :=
  let (n, scale) := if 0 ≤ power then (d * Nat.pow 10 power.toNat, 1) else (d, Nat.pow 10 (-power).toNat)
  let value := n * i.den
  if i.closed then i.low * scale ≤ value && value ≤ i.high * scale
  else i.low * scale < value && value < i.high * scale

/-- The decimal of a grid `10^power` that lies in the interval and is nearest to its middle, if
there is one: one of the two neighbours of the middle. -/
def Interval.onGrid (i : Interval) (power : Int) : Option Nat :=
  let (n, d) := if 0 ≤ power then (i.mid, i.den * Nat.pow 10 power.toNat)
    else (i.mid * Nat.pow 10 (-power).toNat, i.den)
  let below := n / d
  match i.holds below power, i.holds (below + 1) power with
  | true, true => some (roundEven n d)
  | true, false => some below
  | false, true => some (below + 1)
  | false, false => none

/-- The first of `fuel` ever finer grids, from `10^power` on, that meets an interval. -/
def Interval.firstGrid (i : Interval) : Nat → Int → Nat × Int
  | 0, power => (i.mid, power)
  | fuel + 1, power =>
    match i.onGrid power with
    | some d => (d, power)
    | none => i.firstGrid fuel (power - 1)

/-- The shortest decimal of a positive double, its digits and its power of ten. -/
def shortest (m : Nat) (q : Int) : Nat × Int :=
  let i := interval m q
  i.firstGrid 17 (decimalExponent i.mid i.den)

/-- Digits in exponent notation: one digit, the others after a point, an exponent of two digits or
more with its sign. -/
def exponentText (digits : List Char) (exponent : Int) : List Char :=
  let sign := if exponent < 0 then '-' else '+'
  let size := Nat.toDigits 10 exponent.natAbs
  let size := if size.length < 2 then '0' :: size else size
  let fraction := digits.drop 1
  digits.take 1 ++ (if fraction.isEmpty then [] else '.' :: fraction) ++ ('e' :: sign :: size)

/-- Digits in positional notation, the point after `point` of them, and never a bare point. -/
def positionalText (digits : List Char) (point : Int) : List Char :=
  if point ≤ 0 then ['0', '.'] ++ List.replicate (-point).toNat '0' ++ digits
  else
    let whole := digits.take point.toNat ++ List.replicate (point.toNat - digits.length) '0'
    let fraction := digits.drop point.toNat
    whole ++ ('.' :: if fraction.isEmpty then ['0'] else fraction)

/-- A positive decimal, its trailing zeros dropped, in the notation that its size asks for. -/
def decimalText (digits : Nat) (power : Int) : List Char :=
  let all := Nat.toDigits 10 digits
  let point : Int := all.length + power
  let kept := (all.reverse.dropWhile (· == '0')).reverse
  if -4 < point && point ≤ 16 then positionalText kept point
  else exponentText kept (point - 1)

def text (x : Binary64) : String :=
  match x.reading with
  | .notANumber => "nan"
  | .infinite negative => if negative then "-inf" else "inf"
  | .finite negative m q =>
    let magnitude := if m == 0 then ['0', '.', '0']
      else let (digits, power) := shortest m q; decimalText digits power
    String.ofList (if negative then '-' :: magnitude else magnitude)

/-- Whether a double is a whole number, and which. -/
def toInt? (x : Binary64) : Option Int :=
  match x.reading with
  | .finite negative m q =>
    let whole : Option Nat :=
      if 0 ≤ q then some (m * Nat.pow 2 q.toNat)
      else if m % Nat.pow 2 (-q).toNat == 0 then some (m / Nat.pow 2 (-q).toNat) else none
    whole.map fun n => if negative then -(n : Int) else n
  | _ => none

/-- Whether two doubles are equal as numbers: the zeros are, and the number that is none equals
nothing. -/
def sameNumber (x y : Binary64) : Bool :=
  match x.reading, y.reading with
  | .notANumber, _ => false
  | _, .notANumber => false
  | .finite _ 0 _, .finite _ 0 _ => true
  | _, _ => x.bits == y.bits

end Binary64
end JavaStubs

/-! ## Arithmetic

Arithmetic on double precision numbers. Sums, products, quotients and remainders are worked out exactly
and rounded once; what has no value is the number that is none, with a sign. The functions that have no
exact values are those of the machine.
-/
namespace JavaStubs.Binary64

/-- Whether the sign of a number is that of the negative ones. -/
def isNegative (x : Binary64) : Bool := x.bits / Nat.pow 2 63 % 2 == 1

def negated (x : Binary64) : Binary64 :=
  ⟨if x.isNegative then x.bits - Nat.pow 2 63 else x.bits + Nat.pow 2 63⟩

/-- The result of an operation that has none. -/
def invalid : Binary64 := notANumber.negated

def zero : Binary64 := withSign false 0

/-- The double nearest to `m * 2^exponent`; `negative` is the sign of a zero. -/
def ofScaled (negative : Bool) (m exponent : Int) : Binary64 :=
  if m = 0 then withSign negative 0
  else
    let (num, den) := scaleTwo m.natAbs 1 exponent
    ofQuotient (m < 0) num den

/-- The double nearest to a whole number. -/
def ofInt (n : Int) : Binary64 := ofScaled false n 0

/-- The double nearest to a natural number. -/
def ofNat (n : Nat) : Binary64 := ofInt n

/-- A magnitude with a sign, as a whole number. -/
def signed (negative : Bool) (m : Nat) : Int := if negative then -m else m

/-- Two whole numbers times powers of two, brought to the same power. -/
def aligned (m : Int) (p : Int) (n : Int) (q : Int) : Int × Int × Int :=
  let least := min p q
  (m * Nat.pow 2 (p - least).toNat, n * Nat.pow 2 (q - least).toNat, least)

/-- The sum of two numbers. -/
def add (x y : Binary64) : Binary64 :=
  match x.reading, y.reading with
  | .notANumber, _ => x
  | _, .notANumber => y
  | .infinite a, .infinite b => if a == b then x else invalid
  | .infinite _, _ => x
  | _, .infinite _ => y
  | .finite a m p, .finite b n q =>
    let (m, n, least) := aligned (signed a m) p (signed b n) q
    ofScaled (a && b) (m + n) least

def sub (x y : Binary64) : Binary64 := x.add y.negated

/-- The product of two numbers. -/
def mul (x y : Binary64) : Binary64 :=
  let negative := x.isNegative != y.isNegative
  match x.reading, y.reading with
  | .notANumber, _ => x
  | _, .notANumber => y
  | .infinite _, .finite _ n _ => if n = 0 then invalid else infinity negative
  | .finite _ m _, .infinite _ => if m = 0 then invalid else infinity negative
  | .infinite _, .infinite _ => infinity negative
  | .finite a m p, .finite b n q => ofScaled negative (signed a m * signed b n) (p + q)

/-- The quotient of two numbers. -/
def div (x y : Binary64) : Binary64 :=
  let negative := x.isNegative != y.isNegative
  match x.reading, y.reading with
  | .notANumber, _ => x
  | _, .notANumber => y
  | .infinite _, .infinite _ => invalid
  | .infinite _, .finite _ _ _ => infinity negative
  | .finite _ _ _, .infinite _ => withSign negative 0
  | .finite _ m p, .finite _ n q =>
    if n = 0 then if m = 0 then invalid else infinity negative
    else if m = 0 then withSign negative 0
    else
      let (num, den) := scaleTwo m n (p - q)
      ofQuotient negative num den

/-- What is left of a number after it was divided by another one a whole number of times. -/
def remainder (x y : Binary64) : Binary64 :=
  match x.reading, y.reading with
  | .notANumber, _ => x
  | _, .notANumber => y
  | .infinite _, _ => invalid
  | _, .infinite _ => x
  | .finite a m p, .finite _ n q =>
    if n = 0 then invalid
    else
      let (m, n, least) := aligned m p n q
      ofScaled a (signed a (m.toNat % n.toNat)) least

def whole? (x : Binary64) : Option Int :=
  match x.reading with
  | .finite negative m q =>
    let (num, den) := scaleTwo m 1 q
    some (signed negative (num / den))
  | _ => none

def truncated (x : Binary64) : Binary64 :=
  match x.whole? with
  | some n => ofScaled x.isNegative n 0
  | none => x

/-- A finite number rounded to a whole one, a tie to the even one. -/
def rounded? (x : Binary64) : Option Int :=
  match x.reading with
  | .finite negative m q =>
    let (num, den) := scaleTwo m 1 q
    some (signed negative (roundEven num den))
  | _ => none

/-- Whether a number is none, or what its place is next to another one. -/
def compare (x y : Binary64) : Option Ordering :=
  match x.reading, y.reading with
  | .notANumber, _ => none
  | _, .notANumber => none
  | .infinite a, .infinite b => some (if a == b then .eq else if a then .lt else .gt)
  | .infinite a, _ => some (if a then .lt else .gt)
  | _, .infinite b => some (if b then .gt else .lt)
  | .finite a m p, .finite b n q =>
    let (m, n, _) := aligned (signed a m) p (signed b n) q
    some (Ord.compare m n)

def isZero (x : Binary64) : Bool :=
  match x.reading with
  | .finite _ m _ => m == 0
  | _ => false

/-! ## Functions of the machine -/

/-- A number as the machine holds it. -/
def toMachine (x : Binary64) : Float := Float.ofBits (UInt64.ofNat x.bits)

/-- A number that the machine holds; what is none has the sign of an operation without a result. -/
def ofMachine (x : Float) : Binary64 := if x.isNaN then invalid else ⟨x.toBits.toNat⟩

def through (function : Float → Float) (x : Binary64) : Binary64 :=
  if x.reading = .notANumber then x else ofMachine (function x.toMachine)

/-- A number to the power of another one. -/
def power (x y : Binary64) : Binary64 := ofMachine (x.toMachine.pow y.toMachine)

def angle (y x : Binary64) : Binary64 := ofMachine (Float.atan2 y.toMachine x.toMachine)

end JavaStubs.Binary64
