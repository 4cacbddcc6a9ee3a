import FrameFeed.Bytes
/-!
# Decimal digits of natural numbers

`digits n` writes a number in base ten and `ofDigits` reads it back (`ofDigits_digits`).
`unsigned?` is the reading used for settings and addresses: an optional plus sign, at least one
digit, no blanks, and a bound.
-/
namespace FrameFeed.Decimal

def isDigit (b : UInt8) : Bool := 48 ≤ b && b ≤ 57

def digitValue (b : UInt8) : Nat := b.toNat - 48

/-- The digits of a number, highest first. -/
def digits (n : Nat) : Bytes :=
  if n < 10 then [(48 + n).toUInt8] else digits (n / 10) ++ [(48 + n % 10).toUInt8]

/-- The number that a run of digits stands for. -/
def ofDigits (ds : Bytes) : Nat := ds.foldl (fun n d => 10 * n + digitValue d) 0

theorem digitValue_digit {n : Nat} (h : n < 10) : digitValue (48 + n).toUInt8 = n := by
  simp only [digitValue, Nat.toUInt8_eq, UInt8.toNat_ofNat']; omega

theorem isDigit_digit {n : Nat} (h : n < 10) : isDigit (48 + n).toUInt8 = true := by
  simp only [isDigit, Nat.toUInt8_eq, Bool.and_eq_true, decide_eq_true_eq, UInt8.le_iff_toNat_le,
    UInt8.toNat_ofNat']
  exact ⟨by change 48 ≤ _; omega, by change _ ≤ 57; omega⟩

theorem ofDigits_digits (n : Nat) : ofDigits (digits n) = n := by
  induction n using digits.induct with
  | case1 n h =>
    rw [digits, if_pos h]
    simp only [ofDigits, List.foldl_cons, List.foldl_nil, digitValue_digit h]; omega
  | case2 n h ih =>
    rw [digits, if_neg h, ofDigits, List.foldl_append, ← ofDigits, ih]
    simp only [List.foldl_cons, List.foldl_nil, digitValue_digit (Nat.mod_lt n (by decide))]
    omega

theorem isDigit_of_mem_digits {n : Nat} {d : UInt8} (h : d ∈ digits n) : isDigit d = true := by
  induction n using digits.induct with
  | case1 n hn => rw [digits, if_pos hn] at h; simp only [List.mem_singleton] at h; exact h ▸ isDigit_digit hn
  | case2 n hn ih =>
    rw [digits, if_neg hn, List.mem_append, List.mem_singleton] at h
    exact h.elim ih fun e => e ▸ isDigit_digit (Nat.mod_lt n (by decide))

theorem digits_ne_nil (n : Nat) : digits n ≠ [] := by
  rw [digits]; split <;> simp

/-- A number written with digits alone, after at most one plus sign, and no larger than `limit`. -/
def unsigned? (limit : Nat) (s : String) : Option Nat :=
  let ds := match Bytes.ofText s with
    | 43 :: r => r
    | r => r
  if ds.isEmpty || !ds.all isDigit || limit < ofDigits ds then none else some (ofDigits ds)


end FrameFeed.Decimal
