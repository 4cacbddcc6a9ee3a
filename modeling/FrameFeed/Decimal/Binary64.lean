/-!
# Double-precision numbers as exact fractions

A finite double is `m · 2^q` (`significand`, `exponent`); `nearest` rounds a fraction to the closest
one, a tie going to the even significand. All arithmetic is exact, so a product or a quotient of
doubles is `nearest` of the exact one.
-/
namespace FrameFeed

/-- A double by its sixty-four bits. -/
abbrev Binary64 := UInt64

namespace Binary64

/-- The highest bit of a significand, `2^52`. It is not written. -/
def hiddenBit : Nat := 0x10000000000000

def exponentField (b : Binary64) : Nat := (b >>> 52).toNat % 0x800
def fractionField (b : Binary64) : Nat := b.toNat % hiddenBit

def isNegative (b : Binary64) : Bool := b.toNat ≥ 0x8000000000000000
def isFinite (b : Binary64) : Bool := b.exponentField < 2047

/-- The whole number `m` of `m · 2^q`. -/
def significand (b : Binary64) : Nat :=
  if b.exponentField = 0 then b.fractionField else hiddenBit + b.fractionField

/-- The power `q` of `m · 2^q`. -/
def exponent (b : Binary64) : Int := max 1 b.exponentField - 1075

def isZero (b : Binary64) : Bool := b.significand == 0

def zero : Binary64 := 0
def one : Binary64 := 0x3ff0000000000000

/-- The sign bit set. -/
def negate (b : Binary64) : Binary64 := b ^^^ 0x8000000000000000

/-- `x · 2^q` as a fraction. -/
def scale (x : Nat) (q : Int) : Nat × Nat :=
  if 0 ≤ q then (x * Nat.pow 2 q.toNat, 1) else (x, Nat.pow 2 (-q).toNat)

/-- The magnitude as a fraction. -/
def fraction (b : Binary64) : Nat × Nat := scale b.significand b.exponent

/-- The whole number closest to `num / den`, a tie going to the even one. -/
def roundDiv (num den : Nat) : Nat :=
  let q := num / den
  let r := 2 * (num % den)
  if r < den || (r == den && q % 2 == 0) then q else q + 1

/-- The power of two that leaves `num / den` between `2^52` and `2^53`, but at least `-1074`. -/
def binade (num den : Nat) : Int :=
  let k : Int := (num.log2 : Int) - den.log2 - 52
  let (n, d) := scale num (-k)
  let k := if n < hiddenBit * (d * den) then k - 1 else k
  max k (-1074)

/-- The double closest to `num / den`, or nothing when that is past the largest finite one. -/
def nearest (num den : Nat) : Option Binary64 :=
  if num = 0 then some zero
  else
    let q := binade num den
    let (n, d) := scale num (-q)
    let m := roundDiv n (d * den)
    let field := (q + 1074).toNat * hiddenBit + m
    if field < 2047 * hiddenBit then some field.toUInt64 else none

/-- The rounded product of two magnitudes. -/
def mul (a b : Binary64) : Option Binary64 :=
  nearest (a.fraction.1 * b.fraction.1) (a.fraction.2 * b.fraction.2)

/-- The rounded quotient of two magnitudes; `b` is not zero. -/
def div (a b : Binary64) : Option Binary64 :=
  nearest (a.fraction.1 * b.fraction.2) (a.fraction.2 * b.fraction.1)

/-- The double closest to `d · 10^e`. An exponent far outside the range of doubles decides at once. -/
def ofScientific (d : Nat) (e : Int) : Option Binary64 :=
  let top : Int := (d.log2 : Int) / 3 + 1 + e
  if d = 0 || top < -400 then some zero
  else if 800 < e then none
  else if 0 ≤ e then nearest (d * Nat.pow 10 e.toNat) 1
  else nearest d (Nat.pow 10 (-e).toNat)

end Binary64
end FrameFeed
