import FrameFeed.Json.Printer
import FrameFeed.Proofs.Decimal.Rounding
import FrameFeed.Proofs.Json.Skipping
/-!
# Doubles read back

A finite double is written as its shortest decimal, and what is written is read as a finite double again
(`scanValueWith_double`), though perhaps not as the same one: a number is read as the rounded product or quotient of
two rounded numbers. What could go wrong is that a product is rounded past the largest double. Two roundings make up
for two units at most, so that only the two largest doubles might be affected; these are looked at one by one
(`exists_product_of_largest`).
-/
namespace FrameFeed.Json

open Binary64 (tenTo)

/-! ## Powers of ten -/

section
variable {f g : Binary64} {e : Int}

theorem scaleTen_near (hlow : -308 ≤ e) (hhigh : e ≤ 308)
    (h : (if 0 ≤ e then f.mul (tenTo e.natAbs) else f.div (tenTo e.natAbs)) = some g) : scaleTen f e = .ok g := by
  rw [scaleTen, dif_pos ⟨hlow, hhigh⟩]
  dsimp only
  rw [← tenTo, h]

theorem scaleTen_up {n : Nat} (hn : n ≤ 308) (h : f.mul (tenTo n) = some g) : scaleTen f n = .ok g :=
  scaleTen_near (by omega) (by omega) (by rw [if_pos (Int.natCast_nonneg n), Int.natAbs_natCast, h])

theorem scaleTen_far (hlow : e < -308) (hzero : ¬f.isZero = true) :
    scaleTen f e = scaleTen ((f.div (tenTo 308)).getD 0) (e + 308) := by
  conv_lhs => rw [scaleTen, dif_neg (by omega), if_neg hzero, if_neg (by omega)]
  generalize (308 : Nat) = n
  rfl

/-- Dividing by powers of ten never leaves the range of finite doubles. -/
theorem scaleTen_down (hf : f.exponentField < 2047) (he : e ≤ 0) :
    ∃ g, scaleTen f e = .ok g ∧ g.exponentField < 2047 := by
  induction hn : e.natAbs using Nat.strongRecOn generalizing f e with
  | ind n ih =>
    by_cases hlow : -308 ≤ e
    · rcases eq_or_lt_of_le he with rfl | hneg
      · obtain ⟨g, hg⟩ : ∃ g, f.mul (tenTo 0) = some g := by
          refine Binary64.exists_mul ?_
          rw [Binary64.value_tenTo_zero, mul_one]
          exact Binary64.value_lt_overflow hf
        exact ⟨g, scaleTen_up (Nat.zero_le _) hg, Binary64.exponentField_of_mul hg⟩
      · obtain ⟨hone, -⟩ := @Binary64.tenTo_spec e.natAbs (by omega)
        obtain ⟨g, hg⟩ := Binary64.exists_div hf hone
        exact ⟨g, scaleTen_near hlow (by omega) (by rw [if_neg (by omega)]; exact hg),
          Binary64.exponentField_of_div hone hg⟩
    by_cases hzero : f.isZero = true
    · refine ⟨f, ?_, hf⟩
      rw [scaleTen, dif_neg (by omega), if_pos hzero]
    · obtain ⟨hone, -⟩ := @Binary64.tenTo_spec 308 (by decide)
      obtain ⟨g, hg⟩ := Binary64.exists_div hf hone
      rw [scaleTen_far (by omega) hzero, hg]
      exact ih (e + 308).natAbs (by omega) (Binary64.exponentField_of_div hone hg) (by omega) rfl

theorem exponentField_of_scaleTen (hf : f.exponentField < 2047) (h : scaleTen f e = .ok g) :
    g.exponentField < 2047 := by
  rcases lt_or_ge 0 e with hpos | hneg
  · rw [scaleTen] at h
    split at h
    · dsimp only at h
      rw [if_pos hpos.le] at h
      split at h
      · cases h
        exact Binary64.exponentField_of_mul ‹_›
      · cases h
    · rw [if_pos hpos.le] at h
      split at h
      · cases h
        exact hf
      · cases h
  · obtain ⟨g', hg', hfinite⟩ := scaleTen_down hf hneg
    rw [h] at hg'
    cases hg'
    exact hfinite

end

/-! ## Numbers as doubles -/

/-- A number that a document can hold: a whole number of sixty-four bits, or a finite double. -/
def Number.Holds : Number → Prop
  | .int i => -0x8000000000000000 ≤ i ∧ i < 0x10000000000000000
  | .double b => b.exponentField < 2047

section
variable {negative : Bool} {n : Nat} {e : Int}

theorem exponentField_signed {b : Binary64} (h : b.exponentField < 2047) (negative : Bool) :
    (if negative then b.negate else b).exponentField < 2047 := by
  split
  · rwa [Binary64.exponentField_negate]
  · exact h

theorem exponentField_rounded (n : Nat) : ((Binary64.nearest n 1).getD 0).exponentField < 2047 := by
  cases h : Binary64.nearest n 1 with
  | none => decide
  | some b => exact Binary64.exponentField_of_nearest one_ne_zero h

theorem doubleOf_eq {g : Binary64} (h : scaleTen ((Binary64.nearest n 1).getD 0) e = .ok g) :
    doubleOf negative n e = .ok (.double (if negative then g.negate else g)) := by
  rw [doubleOf, h]
  rfl

theorem holds_of_doubleOf {m : Number} (h : doubleOf negative n e = .ok m) :
    ∃ b : Binary64, m = .double b ∧ b.exponentField < 2047 := by
  obtain ⟨g, hg, he⟩ := bind_eq_ok h
  cases he
  exact ⟨_, rfl, exponentField_signed (exponentField_of_scaleTen (exponentField_rounded n) hg) negative⟩

theorem exists_doubleOf_down (negative : Bool) (n : Nat) (he : e ≤ 0) : ∃ m, doubleOf negative n e = .ok m := by
  obtain ⟨g, hg, -⟩ := scaleTen_down (exponentField_rounded n) he
  exact ⟨_, doubleOf_eq hg⟩

/-- Below the largest doubles there is room for the two roundings of a product. -/
theorem exists_doubleOf_up (negative : Bool) (hn : 0 < n) (he : 0 < e)
    (h : (n : ℚ) * 10 ^ e ≤ (2 ^ 53 - 5 / 2) * 2 ^ (971 : ℤ)) : ∃ m, doubleOf negative n e = .ok m := by
  obtain ⟨k, rfl⟩ := Int.eq_ofNat_of_zero_le he.le
  rw [zpow_natCast] at h
  have htop : (0 : ℚ) < 2 ^ (971 : ℤ) := by positivity
  have hone : (1 : ℚ) ≤ n := by exact_mod_cast hn
  have hten : (1 : ℚ) ≤ 10 ^ k := one_le_pow₀ (by norm_num)
  have hroom : (2 ^ 53 - 5 / 2 : ℚ) * 2 ^ (971 : ℤ) < Binary64.overflow := by
    unfold Binary64.overflow
    generalize (2 : ℚ) ^ (971 : ℤ) = u at htop
    linarith
  have hk : k ≤ 308 := by
    by_contra hk
    have hlarge : (10 : ℚ) ^ 309 ≤ n * 10 ^ k :=
      (pow_le_pow_right₀ (by norm_num) (by omega)).trans (le_mul_of_one_le_left (zero_le_one.trans hten) hone)
    exact lt_irrefl _ ((hlarge.trans h).trans_lt (hroom.trans Binary64.overflow_lt_ten_pow))
  have hratio : ((n : ℕ) : ℚ) / (1 : ℕ) = n := by simp
  have hbelow : ((n : ℕ) : ℚ) / (1 : ℕ) < Binary64.overflow := by
    rw [hratio]
    exact (le_mul_of_one_le_right (zero_le_one.trans hone) hten).trans_lt (h.trans_lt hroom)
  obtain ⟨f, hf⟩ := @Binary64.exists_nearest n _ one_ne_zero hbelow
  have hfle := Binary64.nearest_le one_ne_zero (by rw [hratio]; exact hone) hf
  rw [hratio] at hfle
  obtain ⟨-, hple⟩ := Binary64.tenTo_spec hk
  have hproduct : f.value * (tenTo k).value < Binary64.overflow := by
    calc f.value * (tenTo k).value ≤ n * (1 + 1 / 2 ^ 53) * (10 ^ k * (1 + 1 / 2 ^ 53)) :=
          mul_le_mul hfle hple (tenTo k).value_nonneg (by positivity)
      _ = n * 10 ^ k * (1 + 1 / 2 ^ 53) ^ 2 := by ring
      _ ≤ (2 ^ 53 - 5 / 2) * 2 ^ (971 : ℤ) * (1 + 1 / 2 ^ 53) ^ 2 := by gcongr
      _ < Binary64.overflow := by
        unfold Binary64.overflow
        generalize (2 : ℚ) ^ (971 : ℤ) = u at htop
        norm_num
        linarith
  obtain ⟨g, hg⟩ := Binary64.exists_mul hproduct
  refine ⟨_, doubleOf_eq (g := g) ?_⟩
  rw [hf]
  exact scaleTen_up hk hg

end

/-! ## Digits -/

theorem mul_pow_le_extend (n : Nat) (ds : Bytes) : n * 10 ^ ds.length ≤ extend n ds := by
  induction ds generalizing n with
  | nil => simp [extend]
  | cons d ds ih =>
    calc n * 10 ^ (ds.length + 1) = 10 * n * 10 ^ ds.length := by ring
      _ ≤ (10 * n + Decimal.digitValue d) * 10 ^ ds.length := Nat.mul_le_mul_right _ (Nat.le_add_right _ _)
      _ ≤ extend n (d :: ds) := ih _

theorem digitValue_le {d : UInt8} (h : Decimal.isDigit d = true) : Decimal.digitValue d ≤ 9 := by
  simp only [Decimal.isDigit, Bool.and_eq_true, decide_eq_true_eq, UInt8.le_iff_toNat_le] at h
  rw [Decimal.digitValue]
  have : d.toNat ≤ 57 := h.2
  omega

theorem extend_lt (n : Nat) {ds : Bytes} (h : ∀ d ∈ ds, Decimal.isDigit d = true) :
    extend n ds < (n + 1) * 10 ^ ds.length := by
  induction ds generalizing n with
  | nil => simp [extend]
  | cons d ds ih =>
    have hd := digitValue_le (h d (.head _))
    calc extend n (d :: ds) < (10 * n + Decimal.digitValue d + 1) * 10 ^ ds.length :=
          ih _ fun d hd => h d (.tail _ hd)
      _ ≤ (10 * (n + 1)) * 10 ^ ds.length := Nat.mul_le_mul_right _ (by omega)
      _ = (n + 1) * 10 ^ (ds.length + 1) := by ring

/-- Digits that are taken in make a number of sixty-four bits, and with the place of those that are not, no more
than all of them stand for. -/
theorem absorb_spec {n : Nat} (hn : n < 0x10000000000000000) (ds : Bytes) :
    (absorb n ds).1 < 0x10000000000000000 ∧ n ≤ (absorb n ds).1 ∧ (absorb n ds).2.length ≤ ds.length ∧
      (absorb n ds).1 * 10 ^ (absorb n ds).2.length ≤ extend n ds := by
  induction ds generalizing n with
  | nil => simpa [absorb, extend] using hn
  | cons d ds ih =>
    rw [absorb]
    split
    · rename_i hfits
      obtain ⟨hlt, hle, hlength, hvalue⟩ := ih hfits
      exact ⟨hlt, by omega, Nat.le_succ_of_le hlength, hvalue⟩
    · exact ⟨hn, Nat.le_refl n, Nat.le_refl _, mul_pow_le_extend n (d :: ds)⟩

/-! ## What is scanned holds -/

section
variable {negative : Bool} {n : Nat} {e : Int} {s r : Bytes} {m : Number}

theorem holds_of_scanExponent (h : scanExponent negative n e s = .ok (m, r)) :
    ∃ b : Binary64, m = .double b ∧ b.exponentField < 2047 := by
  unfold scanExponent at h
  split at h
  dsimp only at h
  split at h
  · cases h
  split at h
  · cases h
  split at h
  · obtain ⟨m', hm, he⟩ := map_eq_ok h
    cases he
    exact holds_of_doubleOf hm
  split at h
  · cases h
    exact ⟨_, rfl, exponentField_signed (by decide) negative⟩
  · cases h

theorem holds_of_scanFraction (h : scanFraction negative n e s = .ok (m, r)) :
    ∃ b : Binary64, m = .double b ∧ b.exponentField < 2047 := by
  unfold scanFraction at h
  dsimp only at h
  split at h
  · cases h
  split at h
  · exact holds_of_scanExponent h
  · exact holds_of_scanExponent h
  · obtain ⟨m', hm, he⟩ := map_eq_ok h
    cases he
    exact holds_of_doubleOf hm

theorem Number.holds_of_double (h : ∃ b : Binary64, m = .double b ∧ b.exponentField < 2047) : m.Holds := by
  obtain ⟨b, rfl, hb⟩ := h
  exact hb

theorem holds_of_scanTail {e : Nat} (hn : n < 0x10000000000000000) (h : scanTail negative n e s = .ok (m, r)) :
    m.Holds := by
  unfold scanTail at h
  split at h
  · exact Number.holds_of_double (holds_of_scanFraction h)
  · exact Number.holds_of_double (holds_of_scanExponent h)
  · exact Number.holds_of_double (holds_of_scanExponent h)
  split at h
  · obtain ⟨m', hm, he⟩ := map_eq_ok h
    cases he
    exact Number.holds_of_double (holds_of_doubleOf hm)
  split at h
  · cases h
    exact ⟨by omega, by omega⟩
  split at h
  · rename_i hsmall
    cases h
    simp only [Bool.and_eq_true, decide_eq_true_eq] at hsmall
    exact ⟨by omega, by omega⟩
  · obtain ⟨m', hm, he⟩ := map_eq_ok h
    cases he
    exact Number.holds_of_double (holds_of_doubleOf hm)

/-- A number that is scanned is one that a document can hold. -/
theorem holds_of_scanNumber (h : scanNumber negative s = .ok (m, r)) : m.Holds := by
  unfold scanNumber at h
  split at h
  · cases h
  · split at h
    · split at h
      · cases h
      · exact holds_of_scanTail (by decide) h
    · exact holds_of_scanTail (by decide) h
  · split at h
    · exact holds_of_scanTail (absorb_spec (by decide) _).1 h
    · cases h

end

/-! ## How decimals are scanned -/

section
variable {negative : Bool} {n : Nat} {e : Int} {ds rest : Bytes}

/-- The exponent that is left when digits of a fraction were taken in. -/
def fractionExponent (n : Nat) (e : Int) (ds : Bytes) : Int :=
  e - (ds.length - (absorb n ds).2.length : Nat)

theorem scanFraction_ends (hds : ∀ d ∈ ds, Decimal.isDigit d = true) (hne : ds ≠ []) (hrest : Ends rest) :
    scanFraction negative n e (ds ++ rest) =
      (doubleOf negative (absorb n ds).1 (fractionExponent n e ds)).map (·, rest) := by
  obtain ⟨htake, hdrop⟩ := span_digits hds hrest.stops
  unfold scanFraction
  simp only [htake, hdrop, List.isEmpty_iff, hne, if_false]
  split
  · exact absurd rfl hrest.2.2.1
  · exact absurd rfl hrest.2.2.2
  · rfl

theorem scanFraction_exponent (hds : ∀ d ∈ ds, Decimal.isDigit d = true) (hne : ds ≠ []) (tail : Bytes) :
    scanFraction negative n e (ds ++ 101 :: tail) =
      scanExponent negative (absorb n ds).1 (fractionExponent n e ds) tail := by
  obtain ⟨htake, hdrop⟩ := span_digits hds (show Stops (101 :: tail) from rfl)
  unfold scanFraction
  simp only [htake, hdrop, List.isEmpty_iff, hne, if_false]
  rfl

/-- An exponent as it is written. -/
def exponentText (x : Int) : Bytes := (if x < 0 then 45 else 43) :: Decimal.digits x.natAbs

theorem scanExponent_text {x : Int} (hx : x.natAbs < 0x80000000) (hrest : Ends rest) :
    scanExponent negative n e (exponentText x ++ rest) = (doubleOf negative n (e + x)).map (·, rest) := by
  obtain ⟨htake, hdrop⟩ := span_digits (fun _ => Decimal.isDigit_of_mem_digits (n := x.natAbs)) hrest.stops
  obtain ⟨d, ds, hds, hd⟩ := exists_digits_cons x.natAbs
  have hvalue := Decimal.ofDigits_digits x.natAbs
  rw [hds] at htake hdrop hvalue
  by_cases hneg : x < 0
  · have hsum : e - (x.natAbs : Int) = e + x := by omega
    rw [exponentText, if_pos hneg, hds]
    simp only [List.cons_append] at htake hdrop ⊢
    simp only [scanExponent, hd, htake, hdrop, hvalue, hx, hsum, if_true, Bool.not_true, Bool.false_eq_true, if_false]
  · have hsum : e + (x.natAbs : Int) = e + x := by omega
    rw [exponentText, if_neg hneg, hds]
    simp only [List.cons_append] at htake hdrop ⊢
    simp only [scanExponent, hd, htake, hdrop, hvalue, hx, hsum, if_true, Bool.not_true, Bool.false_eq_true, if_false]

/-- A text is scanned as the number `n · 10^e`, whatever ends it. -/
def ReadsAs (negative : Bool) (t : Bytes) (n : Nat) (e : Int) : Prop :=
  ∀ rest, Ends rest → scanNumber negative (t ++ rest) = (doubleOf negative n e).map (·, rest)

/-- Up to sixteen digits fit in a word. -/
theorem extend_small (hds : ∀ d ∈ ds, Decimal.isDigit d = true) (hlength : ds.length ≤ 16) :
    extend 0 ds < 0x10000000000000000 := by
  calc extend 0 ds < (0 + 1) * 10 ^ ds.length := extend_lt 0 hds
    _ ≤ (0 + 1) * 10 ^ 16 := Nat.mul_le_mul_left _ (Nat.pow_le_pow_right (by decide) hlength)
    _ < 0x10000000000000000 := by decide

/-- A whole part that is not too long, a point and more digits. -/
theorem exists_readsAs_point (negative : Bool) {whole fraction : Bytes}
    (hwhole : ∀ d ∈ whole, Decimal.isDigit d = true) (hne : whole ≠ [])
    (hhead : whole = [48] ∨ whole.head? ≠ some 48) (hlength : whole.length ≤ 16)
    (hfraction : ∀ d ∈ fraction, Decimal.isDigit d = true) (hne' : fraction ≠ []) :
    ∃ n e, ReadsAs negative (whole ++ 46 :: fraction) n e ∧ e ≤ 0 := by
  refine ⟨(absorb (extend 0 whole) fraction).1, fractionExponent (extend 0 whole) 0 fraction, fun rest hrest => ?_, ?_⟩
  · have hscan := @scanNumber_whole negative whole (46 :: (fraction ++ rest)) hwhole hne hhead
      (extend_small hwhole hlength) rfl
    rw [List.append_assoc, List.cons_append, hscan]
    exact scanFraction_ends hfraction hne' hrest
  · rw [fractionExponent]
    omega

section
variable {d : UInt8} {x : Int}

theorem extend_digit (hd : Decimal.isDigit d = true) : extend 0 [d] < 0x10000000000000000 :=
  extend_small (List.forall_mem_singleton.2 hd) (by simp)

theorem absorb_cons (hd : Decimal.isDigit d = true) (ds : Bytes) : absorb 0 (d :: ds) = absorb (extend 0 [d]) ds := by
  have hfits := extend_digit hd
  have hextend : extend 0 [d] = 10 * 0 + Decimal.digitValue d := rfl
  rw [hextend] at hfits ⊢
  rw [absorb, if_pos hfits]

theorem scanNumber_digit (hd : Decimal.isDigit d = true) (hhead : d ≠ 48) (hrest : Stops rest) :
    scanNumber negative (d :: rest) = scanTail negative (extend 0 [d]) 0 rest :=
  scanNumber_whole negative (List.forall_mem_singleton.2 hd) nofun (.inr (by simpa using hhead)) (extend_digit hd) hrest

theorem absorb_digits_pos {n : Nat} (hn : n ≠ 0) : 0 < (absorb 0 (Decimal.digits n)).1 := by
  obtain ⟨d, ds, hds, hd⟩ := head_digits hn
  have hdigit : Decimal.isDigit d = true := Decimal.isDigit_of_mem_digits (by rw [hds]; exact .head _)
  have hpos : 0 < extend 0 [d] := by
    simp only [Decimal.isDigit, Bool.and_eq_true, decide_eq_true_eq, UInt8.le_iff_toNat_le] at hdigit
    have hlow : 48 ≤ d.toNat := hdigit.1
    have hne : d.toNat ≠ 48 := fun h => hd (UInt8.toNat_inj.1 h)
    show 0 < 10 * 0 + (d.toNat - 48)
    omega
  rw [hds, absorb_cons hdigit]
  exact hpos.trans_le (absorb_spec (extend_digit hdigit) ds).2.1

/-- Digits with a point behind the first, if there are more, and an exponent. -/
def scientific (ds : Bytes) (x : Int) : Bytes :=
  (match ds with
    | [d] => [d]
    | d :: r => d :: 46 :: r
    | [] => []) ++ 101 :: exponentText x

theorem readsAs_scientific (hd : Decimal.isDigit d = true) (hhead : d ≠ 48)
    (hds : ∀ d ∈ ds, Decimal.isDigit d = true) (hx : x.natAbs < 0x80000000) :
    ReadsAs negative (scientific (d :: ds) x) (absorb 0 (d :: ds)).1
      (x - ds.length + (absorb 0 (d :: ds)).2.length) := by
  intro rest hrest
  rw [absorb_cons hd]
  cases ds with
  | nil =>
    have hexponent := @scanExponent_text negative (extend 0 [d]) 0 rest x hx hrest
    have htext : scientific [d] x ++ rest = d :: 101 :: (exponentText x ++ rest) := rfl
    have hzero : x - ([] : Bytes).length + ([] : Bytes).length = x := by simp
    rw [zero_add] at hexponent
    rw [htext, scanNumber_digit hd hhead (by exact rfl), absorb, hzero]
    exact hexponent
  | cons c cs =>
    have htext : scientific (d :: c :: cs) x ++ rest = d :: 46 :: (c :: cs ++ 101 :: (exponentText x ++ rest)) :=
      List.append_assoc (d :: 46 :: c :: cs) (101 :: exponentText x) rest
    have hleft := (absorb_spec (extend_digit hd) (c :: cs)).2.2.1
    have hexponent : fractionExponent (extend 0 [d]) 0 (c :: cs) + x =
        x - (c :: cs).length + (absorb (extend 0 [d]) (c :: cs)).2.length := by
      rw [fractionExponent]
      omega
    rw [htext, scanNumber_digit hd hhead (by exact rfl), ← hexponent]
    exact (scanFraction_exponent hds (List.cons_ne_nil c cs) _).trans (scanExponent_text hx hrest)

end

/-- A decimal `d · 10^k` is scanned as itself but for digits that are too many, or as some number with an exponent
that is not positive. -/
theorem exists_readsAs_placePoint (negative : Bool) {d : Nat} (hd : d ≠ 0) {k : Int} (hlow : -330 ≤ k)
    (hhigh : (Decimal.digits d).length + k ≤ 400) :
    ∃ n e, ReadsAs negative (placePoint (Decimal.digits d) ((Decimal.digits d).length + k)) n e ∧
      (e ≤ 0 ∨ n = (absorb 0 (Decimal.digits d)).1 ∧ e = k + (absorb 0 (Decimal.digits d)).2.length) := by
  have hdigits : ∀ c ∈ Decimal.digits d, Decimal.isDigit c = true := fun _ => Decimal.isDigit_of_mem_digits
  obtain ⟨c, cs, hds, hc⟩ := head_digits hd
  rw [hds] at hdigits hhigh ⊢
  have hzeros : ∀ n, ∀ d ∈ List.replicate n (48 : UInt8), Decimal.isDigit d = true := by
    intro n d hd
    rw [(List.mem_replicate.1 hd).2]
    rfl
  have hlength : (c :: cs).length = cs.length + 1 := rfl
  unfold placePoint
  dsimp only
  generalize hp : ((c :: cs).length : ℤ) + k = p at hhigh ⊢
  by_cases hwhole : ((c :: cs).length : ℤ) ≤ p ∧ p ≤ 16
  · -- zeros before the point and one behind it
    obtain ⟨n, e, hreads, he⟩ := @exists_readsAs_point negative
      (c :: cs ++ List.replicate (p.toNat - (c :: cs).length) 48) [48]
      (fun d hd => (List.mem_append.1 hd).elim (hdigits d) (hzeros _ d)) nofun (.inr (by simpa using hc))
      (by rw [List.length_append, List.length_replicate]; omega) (hzeros 1) nofun
    rw [if_pos (by simpa using hwhole)]
    exact ⟨n, e, hreads, .inl he⟩
  rw [if_neg (by simpa using hwhole)]
  by_cases hinner : 0 < p ∧ p ≤ 16
  · -- the point between two digits
    obtain ⟨m, hm⟩ := Nat.exists_eq_succ_of_ne_zero (show p.toNat ≠ 0 by omega)
    obtain ⟨n, e, hreads, he⟩ := @exists_readsAs_point negative ((c :: cs).take p.toNat) ((c :: cs).drop p.toNat)
      (fun d hd => hdigits d (List.mem_of_mem_take hd)) (by rw [hm]; exact nofun) (.inr (by rw [hm]; simpa using hc))
      (by rw [List.length_take]; omega) (fun d hd => hdigits d (List.mem_of_mem_drop hd))
      (by rw [Ne, List.drop_eq_nil_iff]; omega)
    rw [if_pos (by simpa using hinner)]
    exact ⟨n, e, hreads, .inl he⟩
  rw [if_neg (by simpa using hinner)]
  by_cases hfraction : -5 < p ∧ p ≤ 0
  · -- zeros behind the point, before the digits
    obtain ⟨n, e, hreads, he⟩ := @exists_readsAs_point negative [48] (List.replicate (-p).toNat 48 ++ c :: cs)
      (hzeros 1) nofun (.inl rfl) (by decide) (fun d hd => (List.mem_append.1 hd).elim (hzeros _ d) (hdigits d))
      (by simp)
    rw [if_pos (by simpa using hfraction)]
    exact ⟨n, e, hreads, .inl he⟩
  · rw [if_neg (by simpa using hfraction)]
    refine ⟨_, _, readsAs_scientific (hdigits c (.head _)) hc (fun d hd => hdigits d (.tail _ hd)) (by omega),
      .inr ⟨rfl, ?_⟩⟩
    omega

end

/-! ## Doubles -/

/-- A number has as many digits as its size asks for. -/
theorem pow_length_digits {d : Nat} (hd : d ≠ 0) : 10 ^ (Decimal.digits d).length ≤ 10 * d := by
  induction d using Decimal.digits.induct with
  | case1 n hlt =>
    rw [Decimal.digits, if_pos hlt]
    simp only [List.length_singleton, pow_one]
    omega
  | case2 n hlt ih =>
    have := ih (by omega)
    rw [Decimal.digits, if_neg hlt, List.length_append, List.length_singleton, pow_succ]
    omega

section
variable {b : Binary64} {d : Nat} {k : Int}

/-- Half a unit above a finite double leaves room for two roundings, unless it is one of the two largest. -/
theorem half_above_le (hb : b.exponentField < 2047)
    (hlarge : ¬(b.exponent = 971 ∧ 2 ^ 53 - 2 ≤ b.significand)) :
    ((b.significand : ℚ) + 1 / 2) * 2 ^ b.exponent ≤ (2 ^ 53 - 5 / 2) * 2 ^ (971 : ℤ) := by
  rcases eq_or_lt_of_le (Binary64.exponent_le hb) with hexponent | hexponent
  · have hle : b.significand + 3 ≤ 2 ^ 53 := by omega
    have hm : (b.significand : ℚ) + 3 ≤ 2 ^ 53 := by exact_mod_cast hle
    rw [hexponent]
    exact mul_le_mul_of_nonneg_right (by linarith) (by positivity)
  · have hm : (b.significand : ℚ) + 1 ≤ 2 ^ 53 := by exact_mod_cast b.significand_lt
    have hq : (2 : ℚ) ^ b.exponent ≤ 2 ^ (970 : ℤ) := zpow_le_zpow_right₀ (by norm_num) (by omega)
    have hhalf : (2 : ℚ) ^ (970 : ℤ) * 2 = 2 ^ (971 : ℤ) := by
      rw [← zpow_add_one₀ (by norm_num)]
      norm_num
    have hpos : (0 : ℚ) < 2 ^ (970 : ℤ) := by positivity
    calc ((b.significand : ℚ) + 1 / 2) * 2 ^ b.exponent ≤ 2 ^ 53 * 2 ^ (970 : ℤ) :=
          mul_le_mul (by linarith) hq (by positivity) (by norm_num)
      _ ≤ (2 ^ 53 - 5 / 2) * (2 ^ (970 : ℤ) * 2) := by
        generalize (2 : ℚ) ^ (970 : ℤ) = u at hpos
        linarith
      _ = (2 ^ 53 - 5 / 2) * 2 ^ (971 : ℤ) := by rw [hhalf]

/-- The interval of a double with this significand in the highest binade. -/
def highest (m : Nat) : Binary64.Interval := ⟨4 * m - 2, 4 * m, 4 * m + 2, 969, m % 2 == 0⟩

theorem shortest_of_highest (hexponent : b.exponent = 971) (hbit : b.significand ≠ Binary64.hiddenBit) :
    b.shortest = (List.range 640).findSome? fun (i : Nat) =>
      (Binary64.gridPoint (highest b.significand) (309 - (i : Int))).map (·, 309 - (i : Int)) := by
  have hinterval : b.interval = highest b.significand := by
    have hpower : b.exponent - 2 = 969 := by omega
    unfold Binary64.interval highest
    dsimp only
    rw [hpower, if_neg (by simp [hbit])]
  rw [Binary64.shortest, hinterval]

/-- The product of these is rounded to a double. -/
theorem exists_product_of_largest (hexponent : b.exponent = 971) (hlarge : 2 ^ 53 - 2 ≤ b.significand)
    (h : b.shortest = some (d, k)) :
    d < 0x10000000000000000 ∧ ∃ n : Nat, k = n ∧ n ≤ 308 ∧
      ∃ g, ((Binary64.nearest d 1).getD 0).mul (tenTo n) = some g := by
  have hlt := b.significand_lt
  rw [shortest_of_highest hexponent (by rw [Binary64.hiddenBit]; omega)] at h
  have htwo : b.significand = 2 ^ 53 - 1 ∨ b.significand = 2 ^ 53 - 2 := by omega
  rcases htwo with hm | hm
  · rw [hm, show (List.range 640).findSome? (fun (i : Nat) =>
      (Binary64.gridPoint (highest (2 ^ 53 - 1)) (309 - (i : Int))).map (·, 309 - (i : Int))) =
      some (17976931348623157, 292) by decide +kernel] at h
    cases h
    exact ⟨by decide, 292, rfl, by decide, Option.isSome_iff_exists.1 (by decide +kernel)⟩
  · rw [hm, show (List.range 640).findSome? (fun (i : Nat) =>
      (Binary64.gridPoint (highest (2 ^ 53 - 2)) (309 - (i : Int))).map (·, 309 - (i : Int))) =
      some (17976931348623155, 292) by decide +kernel] at h
    cases h
    exact ⟨by decide, 292, rfl, by decide, Option.isSome_iff_exists.1 (by decide +kernel)⟩

theorem length_of_shortest (hb : b.exponentField < 2047) (hzero : b.isZero = false) (h : b.shortest = some (d, k)) :
    (Decimal.digits d).length + k ≤ 400 := by
  obtain ⟨hpos, hle, -⟩ := Binary64.shortest_spec hzero h
  have hlength : (10 : ℚ) ^ (Decimal.digits d).length ≤ 10 * d := by exact_mod_cast pow_length_digits hpos.ne'
  have hten : (0 : ℚ) < 10 ^ k := by positivity
  have hlt : (10 : ℚ) ^ ((Decimal.digits d).length + k) < 10 ^ ((309 : ℕ) + 1 : ℤ) := by
    calc (10 : ℚ) ^ ((Decimal.digits d).length + k) = 10 ^ (Decimal.digits d).length * 10 ^ k := by
          rw [zpow_add₀ (by norm_num), zpow_natCast]
      _ ≤ 10 * d * 10 ^ k := mul_le_mul_of_nonneg_right hlength hten.le
      _ = 10 * (d * 10 ^ k) := mul_assoc _ _ _
      _ ≤ 10 * Binary64.overflow :=
        mul_le_mul_of_nonneg_left (hle.trans (Binary64.half_above_le_overflow hb)) (by norm_num)
      _ < 10 * 10 ^ 309 := mul_lt_mul_of_pos_left Binary64.overflow_lt_ten_pow (by norm_num)
      _ = 10 ^ ((309 : ℕ) + 1 : ℤ) := by rw [zpow_add_one₀ (by norm_num), zpow_natCast, mul_comm]
  have := (zpow_lt_zpow_iff_right₀ (by norm_num : (1 : ℚ) < 10)).1 hlt
  omega

/-- What the shortest decimal of a finite double stands for is read as a double. -/
theorem exists_doubleOf_shortest (negative : Bool) (hb : b.exponentField < 2047) (hzero : b.isZero = false)
    (h : b.shortest = some (d, k)) {n : Nat} {left : Bytes} (habsorb : absorb 0 (Decimal.digits d) = (n, left)) :
    ∃ m, doubleOf negative n (k + left.length) = .ok m := by
  obtain ⟨hpos, hle, -⟩ := Binary64.shortest_spec hzero h
  rcases le_or_gt (k + left.length) 0 with hexponent | hexponent
  · exact exists_doubleOf_down negative n hexponent
  by_cases hlarge : b.exponent = 971 ∧ 2 ^ 53 - 2 ≤ b.significand
  · obtain ⟨hd, e, rfl, he, g, hg⟩ := exists_product_of_largest hlarge.1 hlarge.2 h
    rw [absorb_of_lt (by rw [extend_zero, Decimal.ofDigits_digits]; exact hd), extend_zero,
      Decimal.ofDigits_digits] at habsorb
    cases habsorb
    exact ⟨_, doubleOf_eq (scaleTen_up he hg)⟩
  · have hfirst := absorb_digits_pos hpos.ne'
    have hvalue := (@absorb_spec 0 (by decide) (Decimal.digits d)).2.2.2
    rw [extend_zero, Decimal.ofDigits_digits, habsorb] at hvalue
    rw [habsorb] at hfirst
    refine exists_doubleOf_up negative hfirst hexponent ?_
    have hvalue' : (n : ℚ) * 10 ^ left.length ≤ d := by exact_mod_cast hvalue
    calc (n : ℚ) * 10 ^ (k + left.length) = n * 10 ^ left.length * 10 ^ k := by
          rw [add_comm, zpow_add₀ (by norm_num), zpow_natCast, mul_assoc]
      _ ≤ d * 10 ^ k := mul_le_mul_of_nonneg_right hvalue' (by positivity)
      _ ≤ (b.significand + 1 / 2) * 2 ^ b.exponent := hle
      _ ≤ (2 ^ 53 - 5 / 2) * 2 ^ (971 : ℤ) := half_above_le hb hlarge

/-- What the shortest decimal of a finite double is written as is read as a finite double. -/
theorem exists_scanNumber_placePoint (negative : Bool) (hb : b.exponentField < 2047) (hzero : b.isZero = false)
    (h : b.shortest = some (d, k)) :
    ∃ b' : Binary64, b'.exponentField < 2047 ∧ ∀ rest, Ends rest →
      scanNumber negative (placePoint (Decimal.digits d) ((Decimal.digits d).length + k) ++ rest) =
        .ok (.double b', rest) := by
  obtain ⟨hpos, hle, hlow⟩ := Binary64.shortest_spec hzero h
  have hhigh : (Decimal.digits d).length + k ≤ 400 := length_of_shortest hb hzero h
  obtain ⟨n, e, hreads, hcases⟩ := exists_readsAs_placePoint negative hpos.ne' hlow hhigh
  obtain ⟨m, hm⟩ : ∃ m, doubleOf negative n e = .ok m := by
    rcases hcases with he | ⟨rfl, rfl⟩
    · exact exists_doubleOf_down negative n he
    · exact exists_doubleOf_shortest negative hb hzero h rfl
  obtain ⟨b', rfl, hfinite⟩ := holds_of_doubleOf hm
  refine ⟨b', hfinite, fun rest hrest => ?_⟩
  rw [hreads rest hrest, hm]
  rfl

end

/-- A double as it is written, without its sign. -/
def magnitudeText (b : Binary64) : Bytes :=
  match if b.isZero then none else b.shortest with
  | some (d, k) => placePoint (Decimal.digits d) ((Decimal.digits d).length + k)
  | none => [48, 46, 48]

theorem printDouble_eq (b : Binary64) :
    printDouble b = if b.isNegative then 45 :: magnitudeText b else magnitudeText b := rfl

section
variable {b : Binary64}

theorem exists_scanNumber_magnitude (negative : Bool) (hb : b.exponentField < 2047) :
    ∃ b' : Binary64, b'.exponentField < 2047 ∧ ∀ rest, Ends rest →
      scanNumber negative (magnitudeText b ++ rest) = .ok (.double b', rest) := by
  unfold magnitudeText
  split
  · rename_i d k hshortest
    split at hshortest
    · cases hshortest
    · rename_i hzero
      exact exists_scanNumber_placePoint negative hb (by simpa using hzero) hshortest
  · obtain ⟨n, e, hreads, he⟩ := @exists_readsAs_point negative [48] [48] (List.forall_mem_singleton.2 rfl) nofun
      (.inl rfl) (by decide) (List.forall_mem_singleton.2 rfl) nofun
    obtain ⟨m, hm⟩ := exists_doubleOf_down negative n he
    obtain ⟨b', rfl, hfinite⟩ := holds_of_doubleOf hm
    refine ⟨b', hfinite, fun rest hrest => ?_⟩
    have hscan := hreads rest hrest
    rw [hm] at hscan
    exact hscan

/-- A number begins with a digit. -/
theorem exists_digit_of_scanNumber {negative : Bool} {s r : Bytes} {m : Number}
    (h : scanNumber negative s = .ok (m, r)) : ∃ c x, s = c :: x ∧ Decimal.isDigit c = true := by
  unfold scanNumber at h
  split at h
  · cases h
  · exact ⟨_, _, rfl, rfl⟩
  · split at h
    · exact ⟨_, _, rfl, ‹_›⟩
    · cases h

theorem exists_digit_magnitude (hb : b.exponentField < 2047) :
    ∃ c x, magnitudeText b = c :: x ∧ Decimal.isDigit c = true := by
  obtain ⟨b', -, hscan⟩ := exists_scanNumber_magnitude false hb
  have hdigit := exists_digit_of_scanNumber (hscan [] trivial)
  rwa [List.append_nil] at hdigit

/-- **A finite double is written as a number, and that is read as a finite double**, whatever ends it. -/
theorem scanValueWith_double (hb : b.exponentField < 2047) :
    ∃ b' : Binary64, b'.exponentField < 2047 ∧ ∀ nested rest, Ends rest →
      scanValueWith nested (printDouble b ++ rest) = .ok (.num (.double b'), rest) := by
  obtain ⟨b', hfinite, hscan⟩ := exists_scanNumber_magnitude b.isNegative hb
  refine ⟨b', hfinite, fun nested rest hrest => ?_⟩
  have hnumber := hscan rest hrest
  rw [printDouble_eq]
  cases hsign : b.isNegative with
  | true =>
    rw [hsign] at hnumber
    rw [if_pos rfl, List.cons_append, scanValueWith, skipBlank_cons rfl]
    simp only [hnumber]
    rfl
  | false =>
    rw [hsign] at hnumber
    obtain ⟨c, x, hcons, hc⟩ := exists_digit_magnitude hb
    rw [if_neg Bool.false_ne_true]
    rw [hcons, List.cons_append] at hnumber ⊢
    rw [scanValueWith_digit hc, hnumber]
    rfl

end

end FrameFeed.Json
