import FrameFeed.Decimal.Binary64
import FrameFeed.Decimal.Digits
/-!
# Decimal texts as doubles

A rate is written with digits, at most one point and at most one exponent, and stands for the double
closest to it.
-/
namespace FrameFeed.Decimal

/-- Digits and power of ten of a number without a sign: at least one digit, with a point and an
exponent or without. -/
def scientific? (s : Bytes) : Option (Nat × Int) :=
  let whole := s.takeWhile isDigit
  let (fraction, rest) := match s.dropWhile isDigit with
    | 46 :: r => (r.takeWhile isDigit, r.dropWhile isDigit)
    | r => ([], r)
  let power (down : Bool) (ds : Bytes) : Option Int :=
    if ds.isEmpty || !ds.all isDigit then none
    else some (if down then -ofDigits ds else ofDigits ds)
  let e := match rest with
    | [] => some 0
    | c :: r =>
      if c = 101 || c = 69 then
        match r with
        | 45 :: ds => power true ds
        | 43 :: ds => power false ds
        | ds => power false ds
      else none
  if whole.isEmpty && fraction.isEmpty then none
  else e.map fun e => (ofDigits (whole ++ fraction), e - fraction.length)

/-- The text as a positive number with a finite double closest to it other than zero. -/
def positive? (s : String) : Option Binary64 := do
  let (d, e) ← match Bytes.ofText s with
    | 43 :: r => scientific? r
    | r => scientific? r
  let b ← Binary64.ofScientific d e
  if b.isZero then none else some b

end FrameFeed.Decimal
