import FrameFeed.Decimal.Shortest
import Mathlib.Algebra.Order.Field.Power
import Mathlib.Algebra.Order.Field.Rat
import Mathlib.Tactic.FieldSimp
import Mathlib.Tactic.Linarith
import Mathlib.Tactic.NormNum
import Mathlib.Tactic.Positivity
import Mathlib.Tactic.Ring
/-!
# Doubles as rational numbers

The magnitude of a double is a rational number (`value`), and so is what a fraction stands for. Rounding goes wrong
by half a unit at most (`nearest_spec`), gives a double for whatever lies below the middle between the largest one
and the next power of two (`exists_nearest`), and then a finite one. The shortest decimal of a double lies no
further from it than half a unit (`shortest_spec`).
-/
namespace FrameFeed.Binary64

/-! ## Magnitudes -/

/-- The magnitude `m · 2^q`. -/
def value (b : Binary64) : ℚ := b.significand * 2 ^ b.exponent

/-- From here on a magnitude is rounded past the largest finite one: half a unit above it. -/
def overflow : ℚ := (2 ^ 53 - 1 / 2) * 2 ^ (971 : ℤ)

theorem scale_snd_pos (x : Nat) (q : Int) : 0 < (scale x q).2 := by
  rw [scale]
  split
  · exact Nat.one_pos
  · exact Nat.pow_pos (by decide)

theorem scale_ratio (x : Nat) (q : Int) : ((scale x q).1 : ℚ) / (scale x q).2 = x * 2 ^ q := by
  rw [scale]
  split
  · rename_i hq
    obtain ⟨n, rfl⟩ := Int.eq_ofNat_of_zero_le hq
    simp
  · rename_i hq
    obtain ⟨n, hn⟩ := Int.eq_ofNat_of_zero_le (Int.le_of_lt (Int.neg_pos_of_neg (Int.not_le.1 hq)))
    obtain rfl : q = -n := by omega
    simp [div_eq_mul_inv]

theorem fraction_snd_pos (b : Binary64) : 0 < b.fraction.2 := scale_snd_pos _ _

theorem fraction_ratio (b : Binary64) : (b.fraction.1 : ℚ) / b.fraction.2 = b.value := scale_ratio _ _

theorem exponentField_eq (b : Binary64) : b.exponentField = b.toNat / 2 ^ 52 % 2048 := by
  simp [exponentField, Nat.shiftRight_eq_div_pow]

theorem significand_lt (b : Binary64) : b.significand < 2 ^ 53 := by
  have hfraction : b.fractionField < hiddenBit := Nat.mod_lt _ (by decide)
  rw [significand]
  unfold hiddenBit at hfraction ⊢
  split <;> omega

theorem exponent_le {b : Binary64} (h : b.exponentField < 2047) : b.exponent ≤ 971 := by
  rw [exponent]
  omega

theorem value_nonneg (b : Binary64) : 0 ≤ b.value := by
  unfold value
  positivity

/-- Half a unit above a finite magnitude the bound is not passed. -/
theorem half_above_le_overflow {b : Binary64} (h : b.exponentField < 2047) :
    ((b.significand : ℚ) + 1 / 2) * 2 ^ b.exponent ≤ overflow := by
  have hm : (b.significand : ℚ) + 1 ≤ 2 ^ 53 := by exact_mod_cast b.significand_lt
  have hq : (2 : ℚ) ^ b.exponent ≤ 2 ^ (971 : ℤ) := zpow_le_zpow_right₀ (by norm_num) (exponent_le h)
  exact mul_le_mul (by linarith) hq (by positivity) (by norm_num)

theorem value_lt_overflow {b : Binary64} (h : b.exponentField < 2047) : b.value < overflow := by
  refine lt_of_lt_of_le ?_ (half_above_le_overflow h)
  exact mul_lt_mul_of_pos_right (by linarith) (by positivity)

/-- The bits of `m · 2^(e - 1074)`, where `m` may also be the next power of two. -/
theorem value_ofField {e m : Nat} (hm : m ≤ 2 ^ 53) (he : e = 0 ∨ 2 ^ 52 ≤ m)
    (hfield : e * hiddenBit + m < 2047 * hiddenBit) :
    value (e * hiddenBit + m).toUInt64 = m * 2 ^ ((e : ℤ) - 1074) ∧
      exponentField (e * hiddenBit + m).toUInt64 < 2047 := by
  have htoNat : (e * hiddenBit + m).toUInt64.toNat = e * hiddenBit + m := by
    rw [Nat.toUInt64_eq, UInt64.toNat_ofNat']
    unfold hiddenBit at hfield ⊢
    omega
  unfold value significand exponent fractionField
  rw [exponentField_eq, htoNat]
  unfold hiddenBit at hfield ⊢
  rcases Nat.lt_or_ge m (2 ^ 52) with hlt | hge
  · -- no hidden bit, the smallest exponent
    obtain rfl : e = 0 := by omega
    have hdiv : (0 * 4503599627370496 + m) / 2 ^ 52 % 2048 = 0 := by omega
    have hmod : (0 * 4503599627370496 + m) % 4503599627370496 = m := by omega
    rw [hdiv, if_pos rfl, hmod]
    exact ⟨by norm_num, by decide⟩
  rcases Nat.eq_or_lt_of_le hm with rfl | hlt
  · -- the next power of two, in the next binade
    have hdiv : (e * 4503599627370496 + 2 ^ 53) / 2 ^ 52 % 2048 = e + 2 := by omega
    have hmod : (e * 4503599627370496 + 2 ^ 53) % 4503599627370496 = 0 := by omega
    have hexponent : ((max 1 (e + 2) : ℕ) : ℤ) - 1075 = (e - 1074) + 1 := by omega
    rw [hdiv, if_neg (by omega), hmod, hexponent, zpow_add_one₀ (by norm_num)]
    refine ⟨?_, by omega⟩
    push_cast
    ring
  · have hdiv : (e * 4503599627370496 + m) / 2 ^ 52 % 2048 = e + 1 := by omega
    have hmod : 4503599627370496 + (e * 4503599627370496 + m) % 4503599627370496 = m := by omega
    have hexponent : ((max 1 (e + 1) : ℕ) : ℤ) - 1075 = e - 1074 := by omega
    rw [hdiv, if_neg (by omega), hmod, hexponent]
    exact ⟨rfl, by omega⟩

/-! ## Rounding -/

section
variable {num den : Nat}

theorem roundDiv_spec (h : 0 < den) :
    (roundDiv num den : ℚ) ≤ num / den + 1 / 2 ∧ (num : ℚ) / den ≤ roundDiv num den + 1 / 2 := by
  have hpos : (0 : ℚ) < den := by exact_mod_cast h
  have hbounds : 2 * (den * roundDiv num den) ≤ 2 * num + den ∧ 2 * num ≤ 2 * (den * roundDiv num den) + den := by
    have hdiv := Nat.div_add_mod num den
    have hmod := Nat.mod_lt num h
    unfold roundDiv
    simp only [Bool.or_eq_true, decide_eq_true_eq, Bool.and_eq_true, beq_iff_eq]
    split
    · omega
    · rw [Nat.mul_add]
      omega
  obtain ⟨hup, hlow⟩ := hbounds
  have hup' : 2 * ((den : ℚ) * roundDiv num den) ≤ 2 * num + den := by exact_mod_cast hup
  have hlow' : 2 * (num : ℚ) ≤ 2 * (den * roundDiv num den) + den := by exact_mod_cast hlow
  constructor
  · rw [div_add' _ _ _ hpos.ne', le_div_iff₀ hpos]
    linarith
  · rw [div_le_iff₀ hpos]
    linarith

/-- The place of the highest bit of a fraction, up to one. -/
theorem log2_ratio (hnum : num ≠ 0) (hden : den ≠ 0) :
    (2 : ℚ) ^ ((num.log2 : ℤ) - den.log2 - 1) < num / den ∧ (num : ℚ) / den < 2 ^ ((num.log2 : ℤ) - den.log2 + 1) := by
  have hpos : (0 : ℚ) < den := by exact_mod_cast Nat.pos_of_ne_zero hden
  have hnumLow : (2 : ℚ) ^ (num.log2 : ℤ) ≤ num := by exact_mod_cast Nat.log2_self_le hnum
  have hnumHigh : (num : ℚ) < 2 ^ ((num.log2 : ℤ) + 1) := by exact_mod_cast Nat.lt_log2_self
  have hdenLow : (2 : ℚ) ^ (den.log2 : ℤ) ≤ den := by exact_mod_cast Nat.log2_self_le hden
  have hdenHigh : (den : ℚ) < 2 ^ ((den.log2 : ℤ) + 1) := by exact_mod_cast Nat.lt_log2_self
  have htwo : (2 : ℚ) ≠ 0 := by norm_num
  constructor
  · rw [lt_div_iff₀ hpos]
    calc (2 : ℚ) ^ ((num.log2 : ℤ) - den.log2 - 1) * den
        < 2 ^ ((num.log2 : ℤ) - den.log2 - 1) * 2 ^ ((den.log2 : ℤ) + 1) := by gcongr
      _ = 2 ^ (num.log2 : ℤ) := by rw [← zpow_add₀ htwo]; congr 1; ring
      _ ≤ num := hnumLow
  · rw [div_lt_iff₀ hpos]
    calc (num : ℚ) < 2 ^ ((num.log2 : ℤ) + 1) := hnumHigh
      _ = 2 ^ ((num.log2 : ℤ) - den.log2 + 1) * 2 ^ (den.log2 : ℤ) := by rw [← zpow_add₀ htwo]; congr 1; ring
      _ ≤ 2 ^ ((num.log2 : ℤ) - den.log2 + 1) * den := by gcongr

/-- The binade of a fraction: its magnitude has fifty-three bits in this unit, or fewer in the smallest one. -/
theorem binade_spec (hnum : num ≠ 0) (hden : den ≠ 0) :
    (num : ℚ) / den < 2 ^ (binade num den + 53) ∧ -1074 ≤ binade num den ∧
      (-1074 < binade num den → (2 : ℚ) ^ (binade num den + 52) ≤ num / den) := by
  obtain ⟨hlow, hhigh⟩ := log2_ratio hnum hden
  have hpos : (0 : ℚ) < den := by exact_mod_cast Nat.pos_of_ne_zero hden
  have htwo : (2 : ℚ) ≠ 0 := by norm_num
  have hle : (1 : ℚ) ≤ 2 := by norm_num
  unfold binade
  generalize hk : (num.log2 : ℤ) - den.log2 - 52 = k
  have hk' : (num.log2 : ℤ) - den.log2 = k + 52 := by omega
  rw [hk'] at hlow hhigh
  -- the test compares the fraction in the unit with the hidden bit
  have htest : (scale num (-k)).1 < hiddenBit * ((scale num (-k)).2 * den) ↔ (num : ℚ) / den < 2 ^ (k + 52) := by
    have hscale := scale_ratio num (-k)
    have hd : (0 : ℚ) < (scale num (-k)).2 := by exact_mod_cast scale_snd_pos num (-k)
    have hcast : ∀ m n : ℕ, m < n ↔ (m : ℚ) < n := fun _ _ => Nat.cast_lt.symm
    rw [div_eq_iff hd.ne'] at hscale
    rw [hcast, hscale, div_lt_iff₀ hpos, zpow_add₀ htwo, zpow_neg]
    have hpow : (0 : ℚ) < 2 ^ k := by positivity
    have hbit : ((hiddenBit : ℕ) : ℚ) = 2 ^ (52 : ℤ) := by norm_num [hiddenBit]
    push_cast
    rw [hbit]
    constructor
    · intro h
      have h' := mul_lt_mul_of_pos_left h (mul_pos hpow (inv_pos.2 hd))
      field_simp at h'
      linarith
    · intro h
      have h' := mul_lt_mul_of_pos_left h (mul_pos (inv_pos.2 hpow) hd)
      field_simp at h'
      field_simp
      linarith
  dsimp only
  by_cases h : (num : ℚ) / den < 2 ^ (k + 52)
  · rw [if_pos (htest.2 h)]
    refine ⟨h.trans_le (zpow_le_zpow_right₀ hle (by omega)), by omega, fun hmax => ?_⟩
    refine (zpow_le_zpow_right₀ hle ?_).trans hlow.le
    omega
  · rw [if_neg (mt htest.1 h)]
    refine ⟨hhigh.trans_le (zpow_le_zpow_right₀ hle (by omega)), by omega, fun hmax => ?_⟩
    refine (zpow_le_zpow_right₀ hle ?_).trans (not_lt.1 h)
    omega

/-- A fraction in units of its binade, rounded to a whole number, gives the bits of the double. -/
theorem nearest_eq (hnum : num ≠ 0) (hden : den ≠ 0) :
    ∃ m : Nat, m ≤ 2 ^ 53 ∧ ((binade num den + 1074).toNat = 0 ∨ 2 ^ 52 ≤ m) ∧
      (m : ℚ) * 2 ^ binade num den ≤ num / den + 2 ^ binade num den / 2 ∧
      (num : ℚ) / den ≤ m * 2 ^ binade num den + 2 ^ binade num den / 2 ∧
      nearest num den =
        if (binade num den + 1074).toNat * hiddenBit + m < 2047 * hiddenBit then
          some ((binade num den + 1074).toNat * hiddenBit + m).toUInt64
        else none := by
  obtain ⟨hhigh, hleast, hlow⟩ := binade_spec hnum hden
  rw [nearest, if_neg hnum]
  dsimp only
  generalize binade num den = q at hhigh hleast hlow ⊢
  have hunit : (0 : ℚ) < 2 ^ q := by positivity
  have hden' : (0 : ℚ) < den := by exact_mod_cast Nat.pos_of_ne_zero hden
  have hratio : ((scale num (-q)).1 : ℚ) / ((scale num (-q)).2 * den : ℕ) = num / den / 2 ^ q := by
    rw [Nat.cast_mul, ← div_div, scale_ratio, zpow_neg]
    field_simp
  obtain ⟨hup, hdown⟩ := @roundDiv_spec (scale num (-q)).1 ((scale num (-q)).2 * den)
    (Nat.mul_pos (scale_snd_pos num (-q)) (Nat.pos_of_ne_zero hden))
  rw [hratio] at hup hdown
  generalize roundDiv (scale num (-q)).1 ((scale num (-q)).2 * den) = m at hup hdown ⊢
  rw [div_le_iff₀ hunit] at hdown
  have hup' : (m - 1 / 2 : ℚ) ≤ num / den / 2 ^ q := by linarith
  rw [le_div_iff₀ hunit] at hup'
  refine ⟨m, ?_, ?_, by linarith, by linarith, rfl⟩
  · rw [zpow_add₀ (by norm_num), mul_comm] at hhigh
    have hlt : (m - 1 / 2 : ℚ) < 2 ^ (53 : ℤ) := lt_of_mul_lt_mul_right (hup'.trans_lt hhigh) hunit.le
    have : (m : ℚ) < (2 ^ 53 + 1 : ℕ) := by
      push_cast
      norm_num at hlt
      linarith
    exact Nat.le_of_lt_succ (by exact_mod_cast this)
  · rcases eq_or_lt_of_le hleast with hq | hq
    · exact .inl (by omega)
    · have hbit := hlow hq
      rw [zpow_add₀ (by norm_num), mul_comm] at hbit
      have hge : (2 : ℚ) ^ (52 : ℤ) ≤ m + 1 / 2 := le_of_mul_le_mul_right (hbit.trans hdown) hunit
      have : ((2 ^ 52 : ℕ) : ℚ) < (m + 1 : ℕ) := by
        push_cast
        norm_num at hge
        linarith
      exact .inr (Nat.le_of_lt_succ (by exact_mod_cast this))

/-- What a fraction is rounded to is finite, in the same binade or where the next one begins, and half a unit away
at most. -/
theorem nearest_spec {b : Binary64} (hnum : num ≠ 0) (hden : den ≠ 0) (h : nearest num den = some b) :
    b.exponentField < 2047 ∧ (-1074 < binade num den → 2 ^ (binade num den + 52) ≤ b.value) ∧
      b.value ≤ num / den + 2 ^ binade num den / 2 ∧ (num : ℚ) / den ≤ b.value + 2 ^ binade num den / 2 := by
  obtain ⟨m, hm, hbit, hup, hdown, heq⟩ := nearest_eq hnum hden
  rw [heq] at h
  split at h
  · rename_i hfield
    cases h
    obtain ⟨hvalue, hfinite⟩ := value_ofField hm hbit hfield
    have hleast := (binade_spec hnum hden).2.1
    have hexponent : (((binade num den + 1074).toNat : ℕ) : ℤ) - 1074 = binade num den := by omega
    rw [hexponent] at hvalue
    refine ⟨hfinite, fun hq => ?_, hvalue ▸ hup, hvalue ▸ hdown⟩
    have hm52 : (2 ^ 52 : ℚ) ≤ m := by exact_mod_cast hbit.resolve_left (by omega)
    rw [hvalue, zpow_add₀ (by norm_num), mul_comm]
    exact mul_le_mul_of_nonneg_right hm52 (by positivity)
  · cases h

/-- The result of rounding is finite. -/
theorem exponentField_of_nearest {b : Binary64} (hden : den ≠ 0) (h : nearest num den = some b) :
    b.exponentField < 2047 := by
  by_cases hnum : num = 0
  · rw [nearest, if_pos hnum] at h
    cases h
    decide
  · exact (nearest_spec hnum hden h).1

/-- What lies below the bound is rounded to a double. -/
theorem exists_nearest (hden : den ≠ 0) (h : (num : ℚ) / den < overflow) : ∃ b, nearest num den = some b := by
  by_cases hnum : num = 0
  · exact ⟨zero, by rw [nearest, if_pos hnum]⟩
  obtain ⟨m, hm, -, hup, -, heq⟩ := nearest_eq hnum hden
  obtain ⟨-, hleast, hlow⟩ := binade_spec hnum hden
  suffices hfield : (binade num den + 1074).toNat * hiddenBit + m < 2047 * hiddenBit from
    ⟨_, by rw [heq, if_pos hfield]⟩
  generalize binade num den = q at hleast hlow hup
  -- a higher unit would put the fraction at `2^1024` or beyond
  have hq : q ≤ 971 := by
    by_contra hgt
    have hbig : (2 : ℚ) ^ ((971 : ℤ) + 53) ≤ num / den :=
      (zpow_le_zpow_right₀ (by norm_num) (by omega)).trans (hlow (by omega))
    have hpos : (0 : ℚ) < 2 ^ (971 : ℤ) := by positivity
    rw [zpow_add₀ (by norm_num), mul_comm] at hbig
    have hsmall : (2 : ℚ) ^ (53 : ℤ) < 2 ^ 53 - 1 / 2 := lt_of_mul_lt_mul_right (hbig.trans_lt h) hpos.le
    norm_num at hsmall
  unfold hiddenBit
  rcases Int.lt_or_eq_of_le hq with hlt | rfl
  · omega
  · have hpos : (0 : ℚ) < 2 ^ (971 : ℤ) := by positivity
    have hsmall : (m : ℚ) < 2 ^ 53 := by
      unfold overflow at h
      have hlt : (m : ℚ) * 2 ^ (971 : ℤ) < 2 ^ 53 * 2 ^ (971 : ℤ) := by linarith
      exact lt_of_mul_lt_mul_right hlt hpos.le
    have : m < 2 ^ 53 := by exact_mod_cast hsmall
    omega

theorem le_binade (hden : den ≠ 0) (hone : 1 ≤ (num : ℚ) / den) : -52 ≤ binade num den := by
  have hnum : num ≠ 0 := by
    rintro rfl
    norm_num at hone
  by_contra hsmall
  have hexponent : binade num den + 53 ≤ 0 := by omega
  have := zpow_le_one_of_nonpos₀ (by norm_num : (1 : ℚ) ≤ 2) hexponent
  have := (binade_spec hnum hden).1
  linarith

/-- By rounding, a number from one on grows by no more than one part in `2^53`. -/
theorem nearest_le {b : Binary64} (hden : den ≠ 0) (hone : 1 ≤ (num : ℚ) / den) (h : nearest num den = some b) :
    b.value ≤ num / den * (1 + 1 / 2 ^ 53) := by
  have hnum : num ≠ 0 := by
    rintro rfl
    norm_num at hone
  obtain ⟨-, -, hup, -⟩ := nearest_spec hnum hden h
  have hbit := (binade_spec hnum hden).2.2 (by have := le_binade hden hone; omega)
  rw [zpow_add₀ (by norm_num)] at hbit
  norm_num at hbit ⊢
  linarith

/-- A number from one on is not rounded below one. -/
theorem one_le_value {b : Binary64} (hden : den ≠ 0) (hone : 1 ≤ (num : ℚ) / den) (h : nearest num den = some b) :
    1 ≤ b.value := by
  have hnum : num ≠ 0 := by
    rintro rfl
    norm_num at hone
  have hq := le_binade hden hone
  exact (one_le_zpow₀ (by norm_num) (by omega)).trans ((nearest_spec hnum hden h).2.1 (by omega))

end

/-! ## Products and quotients -/

section
variable {a b c : Binary64}

theorem exists_mul (h : a.value * b.value < overflow) : ∃ c, a.mul b = some c := by
  refine exists_nearest (Nat.mul_ne_zero a.fraction_snd_pos.ne' b.fraction_snd_pos.ne') ?_
  rw [Nat.cast_mul, Nat.cast_mul, mul_div_mul_comm, fraction_ratio, fraction_ratio]
  exact h

theorem fraction_fst_ne_zero (h : 1 ≤ b.value) : b.fraction.1 ≠ 0 := by
  intro hzero
  rw [← fraction_ratio, hzero] at h
  norm_num at h

/-- To divide a finite magnitude by one or more gives a double. -/
theorem exists_div (ha : a.exponentField < 2047) (hb : 1 ≤ b.value) : ∃ c, a.div b = some c := by
  refine exists_nearest (Nat.mul_ne_zero a.fraction_snd_pos.ne' (fraction_fst_ne_zero hb)) ?_
  have hratio : ((a.fraction.1 * b.fraction.2 : ℕ) : ℚ) / (a.fraction.2 * b.fraction.1 : ℕ) = a.value / b.value := by
    rw [Nat.cast_mul, Nat.cast_mul, ← fraction_ratio, ← fraction_ratio, div_div_div_eq]
  rw [hratio]
  exact (div_le_self a.value_nonneg hb).trans_lt (value_lt_overflow ha)

theorem exponentField_of_mul (h : a.mul b = some c) : c.exponentField < 2047 :=
  exponentField_of_nearest (Nat.mul_ne_zero a.fraction_snd_pos.ne' b.fraction_snd_pos.ne') h

theorem exponentField_of_div (hb : 1 ≤ b.value) (h : a.div b = some c) : c.exponentField < 2047 :=
  exponentField_of_nearest (Nat.mul_ne_zero a.fraction_snd_pos.ne' (fraction_fst_ne_zero hb)) h

/-- The sign does not change a magnitude. -/
theorem exponentField_negate (b : Binary64) : b.negate.exponentField = b.exponentField := by
  rw [exponentField, exponentField, negate, UInt64.toNat_shiftRight, UInt64.toNat_shiftRight, UInt64.toNat_xor,
    Nat.shiftRight_xor_distrib]
  have hmod := @Nat.xor_mod_two_pow (b.toNat >>> 52) 2048 11
  norm_num at hmod
  exact hmod

end

/-! ## Powers of ten -/

theorem two_pow_top : (2 : ℚ) ^ (971 : ℤ) * 2 ^ 53 = (2 ^ 256) ^ 4 := by
  rw [← pow_mul, show (971 : ℤ) = ((971 : ℕ) : ℤ) from rfl, zpow_natCast, ← pow_add]

theorem ten_pow_lt_overflow {n : Nat} (h : n ≤ 308) : (10 : ℚ) ^ n < overflow := by
  have hten : (10 : ℚ) ^ 77 ≤ 7 / 8 * 2 ^ 256 := by norm_num
  have hpos : (0 : ℚ) < 2 ^ (971 : ℤ) := by positivity
  calc (10 : ℚ) ^ n ≤ 10 ^ (77 * 4) := pow_le_pow_right₀ (by norm_num) h
    _ = (10 ^ 77) ^ 4 := pow_mul _ _ _
    _ ≤ (7 / 8 * 2 ^ 256) ^ 4 := by gcongr
    _ = (7 / 8) ^ 4 * (2 ^ (971 : ℤ) * 2 ^ 53) := by rw [two_pow_top, mul_pow]
    _ < overflow := by
      unfold overflow
      generalize (2 : ℚ) ^ (971 : ℤ) = u at hpos
      norm_num
      linarith

theorem overflow_lt_ten_pow : overflow < 10 ^ 309 := by
  have hten : (2 : ℚ) ^ 256 ≤ 6 / 5 * 10 ^ 77 := by norm_num
  have hpos : (0 : ℚ) < 2 ^ (971 : ℤ) := by positivity
  calc overflow < 2 ^ (971 : ℤ) * 2 ^ 53 := by
        unfold overflow
        generalize (2 : ℚ) ^ (971 : ℤ) = u at hpos
        linarith
    _ = (2 ^ 256) ^ 4 := two_pow_top
    _ ≤ (6 / 5 * 10 ^ 77) ^ 4 := by gcongr
    _ = (6 / 5) ^ 4 * 10 ^ 308 := by rw [mul_pow, ← pow_mul]
    _ ≤ 10 * 10 ^ 308 := by gcongr; norm_num
    _ = 10 ^ 309 := (pow_succ' 10 308).symm

/-- The double that a power of ten is rounded to. -/
def tenTo (n : Nat) : Binary64 := (nearest (Nat.pow 10 n) 1).getD 0

theorem tenTo_spec {n : Nat} (h : n ≤ 308) : 1 ≤ (tenTo n).value ∧ (tenTo n).value ≤ 10 ^ n * (1 + 1 / 2 ^ 53) := by
  have hratio : ((Nat.pow 10 n : ℕ) : ℚ) / (1 : ℕ) = 10 ^ n := by simp
  obtain ⟨p, hp⟩ := exists_nearest one_ne_zero (hratio.trans_lt (ten_pow_lt_overflow h))
  have hone : 1 ≤ ((Nat.pow 10 n : ℕ) : ℚ) / (1 : ℕ) := by
    rw [hratio]
    exact one_le_pow₀ (by norm_num)
  have hle := nearest_le one_ne_zero hone hp
  rw [hratio] at hle
  rw [tenTo, hp]
  exact ⟨one_le_value one_ne_zero hone hp, hle⟩

theorem value_tenTo_zero : (tenTo 0).value = 1 := by
  have hsignificand : (tenTo 0).significand = 2 ^ 52 := by decide +kernel
  have hexponent : (tenTo 0).exponent = -52 := by decide +kernel
  rw [value, hsignificand, hexponent]
  norm_num

/-! ## The shortest decimal -/

section
variable {b : Binary64} {i : Interval} {k : Int} {c d : Nat}

theorem onGrid_snd (x y : Nat) (power k : Int) : (onGrid x power k).2 = (onGrid y power k).2 := by
  by_cases hpower : 0 ≤ power <;> by_cases hk : 0 ≤ k <;> simp [onGrid, scale, hpower, hk]

theorem onGrid_ratio (x : Nat) (power k : Int) :
    ((onGrid x power k).1 : ℚ) / (onGrid x power k).2 = x * 2 ^ power / 10 ^ k := by
  rw [← scale_ratio, onGrid]
  dsimp only
  split
  · rename_i hk
    obtain ⟨n, rfl⟩ := Int.eq_ofNat_of_zero_le hk
    simp [div_div]
  · rename_i hk
    obtain ⟨n, hn⟩ := Int.eq_ofNat_of_zero_le (Int.le_of_lt (Int.neg_pos_of_neg (Int.not_le.1 hk)))
    obtain rfl : k = -n := by omega
    simp [div_eq_mul_inv]
    ring

theorem onGrid_snd_pos (x : Nat) (power k : Int) : 0 < (onGrid x power k).2 := by
  have hscale := scale_snd_pos x power
  rw [onGrid]
  dsimp only
  split
  · exact Nat.mul_pos hscale (Nat.pow_pos (by decide))
  · exact hscale

/-- The point `c` of the grid `10^k` lies in the interval. -/
def inside (i : Interval) (k : Int) (c : Nat) : Bool :=
  let d := (onGrid i.lo i.power k).2
  if i.closed then (onGrid i.lo i.power k).1 ≤ c * d && c * d ≤ (onGrid i.hi i.power k).1
  else (onGrid i.lo i.power k).1 < c * d && c * d < (onGrid i.hi i.power k).1

/-- The point that is chosen lies in the interval. -/
theorem inside_of_gridPoint (h : gridPoint i k = some c) : inside i k c = true := by
  have heq : gridPoint i k =
      let d := (onGrid i.lo i.power k).2
      let mid := (onGrid i.mid i.power k).1
      if inside i k (roundDiv mid d) then some (roundDiv mid d)
      else if inside i k (mid / d) then some (mid / d)
      else if inside i k (mid / d + 1) then some (mid / d + 1)
      else none := rfl
  grind

theorem gridPoint_spec (h : gridPoint i k = some c) :
    (i.lo : ℚ) * 2 ^ i.power ≤ c * 10 ^ k ∧ (c : ℚ) * 10 ^ k ≤ i.hi * 2 ^ i.power := by
  have hinside : (onGrid i.lo i.power k).1 ≤ c * (onGrid i.lo i.power k).2 ∧
      c * (onGrid i.lo i.power k).2 ≤ (onGrid i.hi i.power k).1 := by
    have htest := inside_of_gridPoint h
    rw [inside] at htest
    split at htest
    · simpa using htest
    · simp only [Bool.and_eq_true, decide_eq_true_eq] at htest
      exact ⟨htest.1.le, htest.2.le⟩
  have hd : (0 : ℚ) < (onGrid i.lo i.power k).2 := by exact_mod_cast onGrid_snd_pos i.lo i.power k
  have hten : (0 : ℚ) < 10 ^ k := by positivity
  have hlo := onGrid_ratio i.lo i.power k
  have hhi := onGrid_ratio i.hi i.power k
  rw [onGrid_snd i.hi i.lo] at hhi
  rw [div_eq_div_iff hd.ne' hten.ne'] at hlo hhi
  have hlow : ((onGrid i.lo i.power k).1 : ℚ) ≤ c * (onGrid i.lo i.power k).2 := by exact_mod_cast hinside.1
  have hhigh : (c : ℚ) * (onGrid i.lo i.power k).2 ≤ (onGrid i.hi i.power k).1 := by exact_mod_cast hinside.2
  constructor
  · refine le_of_mul_le_mul_right ?_ hd
    calc (i.lo : ℚ) * 2 ^ i.power * (onGrid i.lo i.power k).2 = (onGrid i.lo i.power k).1 * 10 ^ k := hlo.symm
      _ ≤ c * (onGrid i.lo i.power k).2 * 10 ^ k := by gcongr
      _ = c * 10 ^ k * (onGrid i.lo i.power k).2 := by ring
  · refine le_of_mul_le_mul_right ?_ hd
    calc (c : ℚ) * 10 ^ k * (onGrid i.lo i.power k).2 = c * (onGrid i.lo i.power k).2 * 10 ^ k := by ring
      _ ≤ (onGrid i.hi i.power k).1 * 10 ^ k := by gcongr
      _ = i.hi * 2 ^ i.power * (onGrid i.lo i.power k).2 := hhi

/-- The shortest decimal of a double other than zero is positive, at most half a unit above the double, and its
power of ten is one of those tried. -/
theorem shortest_spec (hzero : b.isZero = false) (h : b.shortest = some (d, k)) :
    0 < d ∧ (d : ℚ) * 10 ^ k ≤ (b.significand + 1 / 2) * 2 ^ b.exponent ∧ -330 ≤ k := by
  rw [shortest, List.findSome?_eq_some_iff] at h
  obtain ⟨before, n, after, hrange, hpoint, -⟩ := h
  have hn : n < 640 := by
    have hmem : n ∈ List.range 640 := by
      rw [hrange]
      simp
    exact List.mem_range.1 hmem
  obtain ⟨c, hc, hpair⟩ := Option.map_eq_some_iff.1 hpoint
  cases hpair
  obtain ⟨hlow, hhigh⟩ := gridPoint_spec hc
  have hsignificand : 0 < b.significand := by
    simp only [isZero, beq_eq_false_iff_ne] at hzero
    exact Nat.pos_of_ne_zero hzero
  have hlo : 0 < b.interval.lo := by
    unfold interval
    dsimp only
    split <;> omega
  have hpower : (2 : ℚ) ^ b.interval.power * 4 = 2 ^ b.exponent := by
    show (2 : ℚ) ^ (b.exponent - 2) * 4 = 2 ^ b.exponent
    rw [show (4 : ℚ) = 2 ^ (2 : ℤ) by norm_num, ← zpow_add₀ (by norm_num), sub_add_cancel]
  have hhi : (b.interval.hi : ℚ) = 4 * b.significand + 2 := by
    show ((4 * b.significand + 2 : ℕ) : ℚ) = _
    push_cast
    ring
  refine ⟨?_, ?_, by omega⟩
  · have hpositive : (0 : ℚ) < b.interval.lo * 2 ^ b.interval.power := by positivity
    by_contra hd
    obtain rfl : d = 0 := by omega
    rw [Nat.cast_zero, zero_mul] at hlow
    linarith
  · rw [hhi] at hhigh
    rw [← hpower]
    linarith

end

end FrameFeed.Binary64
