import FrameFeed.Decimal.Binary64
/-!
# The shortest decimal that reads back

`shortest b` is the decimal `d · 10^k` with the fewest digits among those that round to the double
`b`, and of these the closest one (a tie going to the even digit).

A decimal rounds to `b` when it lies in the interval between the midpoints to the two neighbours of
`b`, its ends included when the significand is even. If a point of the grid `10^k` lies there, one of
the two grid points around `b` does, so these two are all that is tried, from the coarsest grid down.
-/
namespace FrameFeed.Binary64

/-- Whole numbers `lo`, `mid`, `hi` with one power of two: a double and its interval. -/
structure Interval where
  lo : Nat
  mid : Nat
  hi : Nat
  power : Int
  closed : Bool

/-- The interval of the reals that round to a double other than zero. -/
def interval (b : Binary64) : Interval :=
  let m := b.significand
  -- below a power of two the grid of doubles is twice as fine
  let lo := if m = hiddenBit && 1 < b.exponentField then 4 * m - 1 else 4 * m - 2
  ⟨lo, 4 * m, 4 * m + 2, b.exponent - 2, m % 2 == 0⟩

/-- `x · 2^power / 10^k` as a fraction. -/
def onGrid (x : Nat) (power k : Int) : Nat × Nat :=
  let (n, d) := scale x power
  if 0 ≤ k then (n, d * Nat.pow 10 k.toNat) else (n * Nat.pow 10 (-k).toNat, d)

/-- The better of the two points of the grid `10^k` around the double that lie in its interval. -/
def gridPoint (i : Interval) (k : Int) : Option Nat :=
  let (lo, d) := onGrid i.lo i.power k
  let (mid, _) := onGrid i.mid i.power k
  let (hi, _) := onGrid i.hi i.power k
  let inside (c : Nat) : Bool :=
    if i.closed then lo ≤ c * d && c * d ≤ hi else lo < c * d && c * d < hi
  let c := mid / d
  let nearer := roundDiv mid d
  if inside nearer then some nearer
  else if inside c then some c
  else if inside (c + 1) then some (c + 1)
  else none

/-- Digits and power of ten of the shortest decimal of a double other than zero. -/
def shortest (b : Binary64) : Option (Nat × Int) :=
  (List.range 640).findSome? fun (i : Nat) =>
    let k : Int := 309 - (i : Int)
    (gridPoint b.interval k).map (·, k)

end FrameFeed.Binary64
