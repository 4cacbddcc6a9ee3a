import FrameFeed.Decimal.Digits
import FrameFeed.Decimal.Shortest
import FrameFeed.Json.Basic
/-!
# Writing JSON

`print` writes a value without blanks, `pretty` with two blanks per level. A string keeps all but
the quote, the backslash and the controls; a double has the fewest digits that read back, with a
point or an exponent so that it never looks like a whole number.
-/
namespace FrameFeed.Json

/-! ## Numbers -/

/-- Digits `ds` with the decimal point after the first `point` of them. A point from `10^-5` up to
`10^16` is written out, any other becomes an exponent with its sign. -/
def placePoint (ds : Bytes) (point : Int) : Bytes :=
  let n := ds.length
  if n ≤ point && point ≤ 16 then
    ds ++ List.replicate (point.toNat - n) 48 ++ [46, 48]
  else if 0 < point && point ≤ 16 then
    ds.take point.toNat ++ 46 :: ds.drop point.toNat
  else if -5 < point && point ≤ 0 then
    48 :: 46 :: List.replicate (-point).toNat 48 ++ ds
  else
    let e := point - 1
    let tail := (if e < 0 then 45 else 43) :: Decimal.digits e.natAbs
    (match ds with
      | [d] => [d]
      | d :: r => d :: 46 :: r
      | [] => []) ++ 101 :: tail

def printDouble (b : Binary64) : Bytes :=
  let magnitude := match if b.isZero then none else b.shortest with
    | some (d, k) =>
      let ds := Decimal.digits d
      placePoint ds (ds.length + k)
    | none => [48, 46, 48]
  if b.isNegative then 45 :: magnitude else magnitude

def printInt (i : Int) : Bytes :=
  if i < 0 then 45 :: Decimal.digits i.natAbs else Decimal.digits i.natAbs

def Number.print : Number → Bytes
  | .int i => printInt i
  | .double b => printDouble b

/-! ## Strings -/

def hexDigit (n : Nat) : UInt8 := if n < 10 then (48 + n).toUInt8 else (87 + n).toUInt8

/-- How one byte of a string is written. -/
def escapeByte (b : UInt8) : Bytes :=
  if b = 34 then [92, 34]
  else if b = 92 then [92, 92]
  else if b = 8 then [92, 98]
  else if b = 9 then [92, 116]
  else if b = 10 then [92, 110]
  else if b = 12 then [92, 102]
  else if b = 13 then [92, 114]
  else if b < 32 then [92, 117, 48, 48, hexDigit (b.toNat / 16), hexDigit (b.toNat % 16)]
  else [b]

def printText (s : String) : Bytes := 34 :: (Bytes.ofText s).flatMap escapeByte ++ [34]

/-! ## Values -/

mutual

/-- The value without blanks. -/
def print : Json → Bytes
  | .null => [110, 117, 108, 108]
  | .bool true => [116, 114, 117, 101]
  | .bool false => [102, 97, 108, 115, 101]
  | .num n => n.print
  | .str s => printText s
  | .arr items => 91 :: printItems items ++ [93]
  | .obj ms => 123 :: printMembers ms ++ [125]

def printItems : List Json → Bytes
  | [] => []
  | [v] => print v
  | v :: vs => print v ++ 44 :: printItems vs

/-- Members in the order given, separated by commas. -/
def printMembers : Members → Bytes
  | [] => []
  | [(k, v)] => printText k ++ 58 :: print v
  | (k, v) :: ms => printText k ++ 58 :: print v ++ 44 :: printMembers ms

end

/-- A line break and the blanks before a line of level `n`. -/
def newline (n : Nat) : Bytes := 10 :: List.replicate (2 * n) 32

mutual

/-- The value with each element on a line of its own. -/
def prettyAt (n : Nat) : Json → Bytes
  | .arr [] => [91, 93]
  | .obj [] => [123, 125]
  | .arr items => 91 :: prettyItems (n + 1) items ++ newline n ++ [93]
  | .obj ms => 123 :: prettyMembers (n + 1) ms ++ newline n ++ [125]
  | v => print v

def prettyItems (n : Nat) : List Json → Bytes
  | [] => []
  | [v] => newline n ++ prettyAt n v
  | v :: vs => newline n ++ prettyAt n v ++ 44 :: prettyItems n vs

def prettyMembers (n : Nat) : Members → Bytes
  | [] => []
  | [(k, v)] => newline n ++ printText k ++ 58 :: 32 :: prettyAt n v
  | (k, v) :: ms => newline n ++ printText k ++ 58 :: 32 :: prettyAt n v ++ 44 :: prettyMembers n ms

end

def pretty (v : Json) : Bytes := prettyAt 0 v

/-- A record: an object whose members keep the order of the record's fields. -/
def printRecord (fields : List (String × Json)) : Bytes := 123 :: printMembers fields ++ [125]

/-- A value as text. -/
def render (v : Json) : String := Bytes.text v.print

end FrameFeed.Json
