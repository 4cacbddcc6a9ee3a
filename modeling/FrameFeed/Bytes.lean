/-!
# Byte strings

A payload, a document and a stream's content are all lists of bytes. Text enters and leaves them as
UTF-8 (`toText?_ofText`); lengths enter as little-endian words (`le32_word32`, `word32_le32`).
-/
namespace FrameFeed

abbrev Bytes := List UInt8

namespace Bytes

/-- The UTF-8 form of a text. -/
def ofText (s : String) : Bytes := s.toUTF8.data.toList

/-- The text these bytes spell, if they are UTF-8. -/
def toText? (b : Bytes) : Option String := String.fromUTF8? ⟨b.toArray⟩

theorem toText?_ofText (s : String) : toText? (ofText s) = some s := by
  simp only [toText?, ofText, Array.toArray_toList, String.fromUTF8?]
  exact dif_pos s.isValidUTF8

/-- The text of bytes that come from texts; the empty text for anything else. -/
def text (b : Bytes) : String := (toText? b).getD ""

/-! ## Little-endian words -/

/-- The four bytes of a number below `2^32`, lowest first. -/
def word32 (n : Nat) : Bytes :=
  [n.toUInt8, (n / 0x100).toUInt8, (n / 0x10000).toUInt8, (n / 0x1000000).toUInt8]

/-- The number four bytes stand for, lowest first. -/
def le32 (a b c d : UInt8) : Nat :=
  a.toNat + 0x100 * b.toNat + 0x10000 * c.toNat + 0x1000000 * d.toNat

theorem le32_lt (a b c d : UInt8) : le32 a b c d < 0x100000000 := by
  have := a.toNat_lt; have := b.toNat_lt; have := c.toNat_lt; have := d.toNat_lt
  simp only [le32]; omega

theorem le32_word32 {n : Nat} (h : n < 0x100000000) :
    le32 n.toUInt8 (n / 0x100).toUInt8 (n / 0x10000).toUInt8 (n / 0x1000000).toUInt8 = n := by
  simp only [le32, Nat.toUInt8_eq, UInt8.toNat_ofNat']; omega

theorem word32_le32 (a b c d : UInt8) : word32 (le32 a b c d) = [a, b, c, d] := by
  have := a.toNat_lt; have := b.toNat_lt; have := c.toNat_lt; have := d.toNat_lt
  simp only [word32, List.cons.injEq, and_true, ← UInt8.toNat_inj, Nat.toUInt8_eq,
    UInt8.toNat_ofNat', le32]
  omega

/-! ## Hexadecimal -/

def hexDigit (n : Nat) : Char := "0123456789abcdef".toList.getD n '0'

/-- Two lower-case digits. -/
def hexByte (b : UInt8) : List Char := [hexDigit (b.toNat / 16), hexDigit (b.toNat % 16)]

def hex (b : Bytes) : String := .ofList (b.flatMap hexByte)

/-- A word of sixty-four bits as sixteen digits, highest first. -/
def hex64 (h : UInt64) : String := hex ((List.range 8).map fun i => (h >>> (56 - 8 * i).toUInt64).toUInt8)

/-- The value of a digit, of either case. -/
def hexValue? (c : Char) : Option Nat :=
  if c.isDigit then some (c.toNat - '0'.toNat)
  else if 'a' ≤ c.toLower ∧ c.toLower ≤ 'f' then some (c.toLower.toNat - 'a'.toNat + 10)
  else none

/-- The bytes that pairs of digits stand for. -/
def ofHexDigits? : List Char → Option Bytes
  | [] => some []
  | [_] => none
  | a :: b :: cs => do
    let byte := 16 * (← hexValue? a) + (← hexValue? b)
    return byte.toUInt8 :: (← ofHexDigits? cs)

def ofHex? (s : String) : Option Bytes := ofHexDigits? s.toList

/-! ## Checksums -/

/-- The FNV-1a hash of 64 bits. -/
def fnv (b : Bytes) : UInt64 :=
  b.foldl (fun h x => (h ^^^ x.toUInt64) * 0x100000001b3) 0xcbf29ce484222325

/-- The hash as sixteen hexadecimal digits. -/
def checksum (b : Bytes) : String := hex64 (fnv b)

end Bytes
end FrameFeed
