import JavaStubs.Text.UnicodeEscape
import JavaStubs.Text.Words

/-!
Reading bytes as UTF-8. Bytes that are no UTF-8 are refused with the place and the cause of the
first fault: a byte that starts no character, a byte that does not continue the character before
it, or an end in the middle of a character.
-/
namespace JavaStubs.Utf8

/-- Why a byte sequence is no UTF-8. -/
inductive Cause where
  /-- A byte that begins no character. -/
  | badStart
  /-- A character's first bytes are followed by a byte that cannot continue them. -/
  | badContinuation
  /-- The sequence ends inside a character. -/
  | truncated
  deriving DecidableEq, Repr

/-- The first fault of a byte sequence: where the faulty bytes are, how many, and what is wrong. -/
structure Fault where
  start : Nat
  bytes : List UInt8
  cause : Cause
  deriving DecidableEq, Repr

/-- The wording of a fault. One faulty byte is shown by value, several by their positions. -/
def Fault.message (fault : Fault) : String :=
  let reason := match fault.cause with
    | .badStart => "invalid start byte"
    | .badContinuation => "invalid continuation byte"
    | .truncated => "unexpected end of data"
  let place := match fault.bytes with
    | [b] =>
      let digits := String.ofList
        (Hexadecimal.ofByte b)
      s!"byte 0x{digits} in position {fault.start}"
    | bytes => s!"bytes in position {fault.start}-{fault.start + bytes.length - 1}"
  s!"'utf-8' codec can't decode {place}: {reason}"

/-- How many further bytes a first byte asks for, and the range of the first of them. -/
def continuation (b : UInt8) : Option (Nat × UInt8 × UInt8) :=
  if b < 0x80 then some (0, 0x80, 0xBF)
  else if b < 0xC2 then none
  else if b < 0xE0 then some (1, 0x80, 0xBF)
  else if b == 0xE0 then some (2, 0xA0, 0xBF)
  else if b == 0xED then some (2, 0x80, 0x9F)
  else if b < 0xF0 then some (2, 0x80, 0xBF)
  else if b == 0xF0 then some (3, 0x90, 0xBF)
  else if b < 0xF4 then some (3, 0x80, 0xBF)
  else if b == 0xF4 then some (3, 0x80, 0x8F)
  else none

/-- Where the reader stands: between characters, or inside one whose bytes so far are `taken`
(latest first) and which needs `owed` more, the next in a range. -/
inductive State where
  | between
  | inside (taken : List UInt8) (owed : Nat) (low high : UInt8)
  deriving DecidableEq, Repr

/-- The first fault from a state on, at position `pos`; nothing when the bytes are UTF-8. -/
def faultFrom : State → Nat → List UInt8 → Option Fault
  | .between, _, [] => none
  | .inside taken _ _ _, pos, [] => some ⟨pos - taken.length, taken.reverse, .truncated⟩
  | .between, pos, b :: rest =>
    match continuation b with
    | none => some ⟨pos, [b], .badStart⟩
    | some (0, _, _) => faultFrom .between (pos + 1) rest
    | some (owed + 1, low, high) => faultFrom (.inside [b] (owed + 1) low high) (pos + 1) rest
  | .inside taken owed low high, pos, b :: rest =>
    if low ≤ b && b ≤ high then
      if owed ≤ 1 then faultFrom .between (pos + 1) rest
      else faultFrom (.inside (b :: taken) (owed - 1) 0x80 0xBF) (pos + 1) rest
    else some ⟨pos - taken.length, taken.reverse, .badContinuation⟩

/-- The fault of bytes that are no UTF-8. -/
def firstFault (bytes : ByteArray) : Fault :=
  (faultFrom .between 0 bytes.toList).getD ⟨0, [], .truncated⟩

/-- Bytes as a text, or the first fault. -/
def decode (bytes : ByteArray) : Except Fault String :=
  match String.fromUTF8? bytes with
  | some text => .ok text
  | none => .error (firstFault bytes)

/-- What a written text reads as. -/
theorem decode_toUTF8 (text : String) : decode text.toUTF8 = .ok text := by
  simp [decode, String.fromUTF8?, String.toUTF8, String.fromUTF8, String.isValidUTF8]

/-- A text file as it is read: as UTF-8, with uniform line ends. -/
def readText (bytes : ByteArray) : Except Fault String :=
  (decode bytes).map fun text => String.ofList (Text.uniformNewlines text.toList)

end JavaStubs.Utf8

/-! ## Octet texts

Texts whose characters stand for single bytes. The programs of a host work on bytes, whatever these may
mean; `ofText` and `toText` lead from a text to the bytes of its UTF-8 form and back.
-/

namespace JavaStubs.Octets

/-- Bytes, each as the character of its number. -/
def ofBytes (bytes : List UInt8) : List Char := bytes.map fun byte => Char.ofNat byte.toNat

def toBytes (octets : List Char) : List UInt8 := octets.map fun c => UInt8.ofNat c.toNat

/-- A byte's character stands for that byte. -/
theorem toNat_ofNat_byte (byte : UInt8) : (Char.ofNat byte.toNat).toNat = byte.toNat := by
  have bound : byte.toNat < 256 := byte.toNat_lt
  have valid : byte.toNat.isValidChar := Or.inl (by omega)
  rw [Char.ofNat, dif_pos valid]
  rfl

/-- Bytes come back from their characters. -/
theorem toBytes_ofBytes (bytes : List UInt8) : toBytes (ofBytes bytes) = bytes := by
  simp only [toBytes, ofBytes, List.map_map]
  conv => rhs; rw [← List.map_id bytes]
  refine List.map_congr_left fun byte _ => ?_
  simp [toNat_ofNat_byte]

def ofText (text : String) : String := String.ofList (ofBytes text.toUTF8.toList)

/-- The text that octets spell; octets that spell none stay as they are. -/
def toText (octets : String) : String :=
  match Utf8.decode ⟨(toBytes octets.toList).toArray⟩ with
  | .ok text => text
  | .error _ => octets

end JavaStubs.Octets
