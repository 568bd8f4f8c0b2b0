/-!
Hexadecimal digits. `ofBytes` writes bytes with two small digits each, and `toBytes` reads pairs of
digits, small or large, back.
-/
namespace JavaStubs.Hexadecimal

/-- The small hexadecimal digit of a number below 16. -/
def digit (n : Nat) : Char :=
  if n < 10 then Char.ofNat ('0'.toNat + n) else Char.ofNat ('a'.toNat + (n - 10))

/-- The value of a hexadecimal digit. -/
def value? (c : Char) : Option Nat :=
  if '0' ≤ c && c ≤ '9' then some (c.toNat - '0'.toNat)
  else if 'a' ≤ c && c ≤ 'f' then some (c.toNat - 'a'.toNat + 10)
  else if 'A' ≤ c && c ≤ 'F' then some (c.toNat - 'A'.toNat + 10)
  else none

def ofByte (byte : UInt8) : List Char := [digit (byte.toNat / 16), digit (byte.toNat % 16)]

def ofBytes (bytes : List UInt8) : String := String.ofList (bytes.flatMap ofByte)

/-- The bytes that pairs of digits spell; what is no digit counts as zero. -/
def bytesOf : List Char → List UInt8
  | high :: low :: rest =>
    UInt8.ofNat (16 * (value? high).getD 0 + (value? low).getD 0) :: bytesOf rest
  | _ => []

/-- The bytes that pairs of digits spell; what is no digit counts as zero. -/
def toBytes (digits : String) : List UInt8 := bytesOf digits.toList

/-- A digit has the value that it was written for. -/
theorem value?_digit {n : Nat} (h : n < 16) : value? (digit n) = some n := by
  have all : ∀ n : Fin 16, value? (digit n) = some n.val := by decide
  exact all ⟨n, h⟩

/-- Bytes are read back as they were written. -/
theorem bytesOf_ofByte (byte : UInt8) (rest : List Char) :
    bytesOf (ofByte byte ++ rest) = byte :: bytesOf rest := by
  have bound : byte.toNat < 256 := byte.toNat_lt
  have high : byte.toNat / 16 < 16 := by omega
  have low : byte.toNat % 16 < 16 := by omega
  have whole : 16 * (byte.toNat / 16) + byte.toNat % 16 = byte.toNat := by omega
  simp [ofByte, bytesOf, value?_digit high, value?_digit low, whole]

end JavaStubs.Hexadecimal
