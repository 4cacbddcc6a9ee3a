import FrameFeed.Json.Parser
/-!
# Words read back

What the printer writes for a text or a whole number is what the scanner makes that text or number of
(`scanText_escaped`, `scanNumber_digits`), whatever follows, as long as it does not go on with a number
(`Ends`).
-/
namespace FrameFeed

/-! ## Texts -/

namespace Json

theorem hexValue?_hexDigit : ∀ n, n < 16 → hexValue? (hexDigit n) = some n := by decide

theorem utf8_of_lt : ∀ n, n < 32 → utf8 n = [n.toUInt8] := by decide +kernel

/-- A control is written with four digits. -/
theorem numberedEscape_control {c : UInt8} (h : c < 32) (x : Bytes) :
    numberedEscape (48 :: 48 :: hexDigit (c.toNat / 16) :: hexDigit (c.toNat % 16) :: x) = .ok ([c], 5) := by
  have hc : c.toNat < 32 := UInt8.lt_iff_toNat_lt.1 h
  have hhigh := hexValue?_hexDigit (c.toNat / 16) (by omega)
  have hlow := hexValue?_hexDigit (c.toNat % 16) (by omega)
  have hzero : hexValue? 48 = some 0 := rfl
  have hword : hexWord (48 :: 48 :: hexDigit (c.toNat / 16) :: hexDigit (c.toNat % 16) :: x) =
      .ok c.toNat := by
    simp only [hexWord, hzero, hhigh, hlow]
    congr 1
    omega
  have hlone : ¬(0xdc00 ≤ c.toNat ∧ c.toNat ≤ 0xdfff) := by omega
  have hpair : ¬(0xd800 ≤ c.toNat ∧ c.toNat ≤ 0xdbff) := by omega
  have hbyte : utf8 c.toNat = [c] := by rw [utf8_of_lt _ hc]; simp
  simp [numberedEscape, hword, hlone, hpair, hbyte, bind, Except.bind, pure, Except.pure]

/-- A byte is read as it was written. -/
theorem scanQuoted_escapeByte (taken x : Bytes) (c : UInt8) :
    scanQuoted numberedEscape taken 0 (escapeByte c ++ x) = scanQuoted numberedEscape (c :: taken) 0 x := by
  unfold escapeByte
  by_cases hquote : c = 34
  · subst hquote; simp [scanQuoted, escape]
  by_cases hslash : c = 92
  · subst hslash; simp [scanQuoted, escape]
  by_cases hback : c = 8
  · subst hback; simp [scanQuoted, escape]
  by_cases htab : c = 9
  · subst htab; simp [scanQuoted, escape]
  by_cases hline : c = 10
  · subst hline; simp [scanQuoted, escape]
  by_cases hfeed : c = 12
  · subst hfeed; simp [scanQuoted, escape]
  by_cases hreturn : c = 13
  · subst hreturn; simp [scanQuoted, escape]
  simp only [if_neg hquote, if_neg hslash, if_neg hback, if_neg htab, if_neg hline, if_neg hfeed,
    if_neg hreturn]
  by_cases hcontrol : c < 32
  · simp [hcontrol, scanQuoted, escape, numberedEscape_control hcontrol]
  · simp [hcontrol, scanQuoted, hquote, hslash]

theorem scanQuoted_escaped (taken b rest : Bytes) :
    scanQuoted numberedEscape taken 0 (b.flatMap escapeByte ++ 34 :: rest) = .ok (taken.reverse ++ b, rest) := by
  induction b generalizing taken with
  | nil => simp [scanQuoted]
  | cons c b ih =>
    rw [List.flatMap_cons, List.append_assoc, scanQuoted_escapeByte, ih]
    simp

/-- A text is read as it was written. -/
theorem scanText_escaped (s : String) (rest : Bytes) :
    scanText ((Bytes.ofText s).flatMap escapeByte ++ 34 :: rest) = .ok (s, rest) := by
  have hbytes : scanQuoted numberedEscape [] 0 ((Bytes.ofText s).flatMap escapeByte ++ 34 :: rest) =
      .ok (Bytes.ofText s, rest) := scanQuoted_escaped [] _ rest
  simp only [scanText, hbytes, Bytes.toText?_ofText]

theorem printText_append (s : String) (rest : Bytes) :
    printText s ++ rest = 34 :: ((Bytes.ofText s).flatMap escapeByte ++ 34 :: rest) := by
  simp [printText]

/-! ## Whole numbers -/

/-- What follows does not go on with a number. -/
def Ends : Bytes → Prop
  | [] => True
  | c :: _ => Decimal.isDigit c = false ∧ c ≠ 46 ∧ c ≠ 101 ∧ c ≠ 69

/-- What follows digits is not one more. -/
def Stops : Bytes → Prop
  | [] => True
  | c :: _ => Decimal.isDigit c = false

theorem Ends.stops {rest : Bytes} (h : Ends rest) : Stops rest := by
  cases rest with
  | nil => trivial
  | cons c rest => exact h.1

/-- The number that digits stand for, with the number that the digits before them stand for. -/
def extend (n : Nat) (ds : Bytes) : Nat := ds.foldl (fun n d => 10 * n + Decimal.digitValue d) n

theorem extend_zero (ds : Bytes) : extend 0 ds = Decimal.ofDigits ds := rfl

theorem extend_cons (n : Nat) (d : UInt8) (ds : Bytes) :
    extend n (d :: ds) = extend (10 * n + Decimal.digitValue d) ds := by
  rw [extend, List.foldl_cons, extend]

theorem le_extend (n : Nat) (ds : Bytes) : n ≤ extend n ds := by
  induction ds generalizing n with
  | nil => exact Nat.le_refl n
  | cons d ds ih =>
    have := ih (10 * n + Decimal.digitValue d)
    rw [extend_cons]
    omega

/-- Digits of a number that fits are taken in, all of them. -/
theorem absorb_of_lt {n : Nat} {ds : Bytes} (h : extend n ds < 0x10000000000000000) :
    absorb n ds = (extend n ds, []) := by
  induction ds generalizing n with
  | nil => rfl
  | cons d ds ih =>
    have hle := le_extend (10 * n + Decimal.digitValue d) ds
    rw [extend_cons] at h ⊢
    rw [absorb, if_pos (by omega)]
    exact ih h

theorem span_digits {ds rest : Bytes} (hds : ∀ d ∈ ds, Decimal.isDigit d = true) (hrest : Stops rest) :
    (ds ++ rest).takeWhile Decimal.isDigit = ds ∧ (ds ++ rest).dropWhile Decimal.isDigit = rest := by
  rw [List.takeWhile_append_of_pos hds, List.dropWhile_append_of_pos hds]
  cases rest with
  | nil => simp
  | cons c rest =>
    have hc : Decimal.isDigit c = false := hrest
    simp [hc]

/-- The whole part of a number that fits in a word: digits of which none is left out, and no zero before others. -/
theorem scanNumber_whole (negative : Bool) {ds rest : Bytes} (hds : ∀ d ∈ ds, Decimal.isDigit d = true)
    (hne : ds ≠ []) (hhead : ds = [48] ∨ ds.head? ≠ some 48) (hsmall : extend 0 ds < 0x10000000000000000)
    (hrest : Stops rest) : scanNumber negative (ds ++ rest) = scanTail negative (extend 0 ds) 0 rest := by
  rcases hhead with rfl | hhead
  · cases rest with
    | nil => rfl
    | cons c rest =>
      have hc : Decimal.isDigit c = false := hrest
      simp [scanNumber, hc, extend, Decimal.digitValue]
  · obtain ⟨d, ds, rfl⟩ := List.exists_cons_of_ne_nil hne
    obtain ⟨htake, hdrop⟩ := span_digits hds hrest
    have hd : d ≠ 48 := fun h => hhead (by rw [h]; rfl)
    rw [List.cons_append] at htake hdrop ⊢
    rw [scanNumber]
    · rw [if_pos (hds d (.head _)), htake, hdrop, absorb_of_lt hsmall]
      rfl
    · exact hd

theorem head_digits {n : Nat} (h : n ≠ 0) : ∃ d ds, Decimal.digits n = d :: ds ∧ d ≠ 48 := by
  induction n using Decimal.digits.induct with
  | case1 n hlt =>
    refine ⟨(48 + n).toUInt8, [], by rw [Decimal.digits, if_pos hlt], fun h48 => h ?_⟩
    have hvalue := Decimal.digitValue_digit hlt
    rw [h48] at hvalue
    exact hvalue.symm
  | case2 n hlt ih =>
    obtain ⟨d, ds, hds, hd⟩ := ih (by omega)
    rw [Decimal.digits, if_neg hlt, hds]
    exact ⟨d, _, rfl, hd⟩

theorem scanTail_of_ends (negative : Bool) (n : Nat) {rest : Bytes} (h : Ends rest) :
    scanTail negative n 0 rest =
      if !negative then .ok (.int n, rest)
      else if 0 < n && n ≤ 0x8000000000000000 then .ok (.int (-n), rest)
      else (doubleOf true n 0).map (·, rest) := by
  unfold scanTail
  split
  · exact absurd rfl h.2.1
  · exact absurd rfl h.2.2.1
  · exact absurd rfl h.2.2.2
  · rw [if_neg (Nat.lt_irrefl 0)]

/-- The digits of a number that fits in a word are read as that number. -/
theorem scanNumber_digits (negative : Bool) {n : Nat} (hn : n < 0x10000000000000000) {rest : Bytes}
    (hrest : Ends rest) :
    scanNumber negative (Decimal.digits n ++ rest) = scanTail negative n 0 rest := by
  have hvalue : extend 0 (Decimal.digits n) = n := by rw [extend_zero, Decimal.ofDigits_digits]
  have hhead : Decimal.digits n = [48] ∨ (Decimal.digits n).head? ≠ some 48 := by
    by_cases h0 : n = 0
    · subst h0
      exact .inl (by rw [Decimal.digits]; rfl)
    · obtain ⟨d, ds, hds, hd⟩ := head_digits h0
      rw [hds]
      exact .inr (by simpa using hd)
  have hwhole := scanNumber_whole negative (fun _ => Decimal.isDigit_of_mem_digits) (Decimal.digits_ne_nil n) hhead
    (by rw [hvalue]; exact hn) hrest.stops
  rw [hvalue] at hwhole
  exact hwhole

theorem scanNumber_natural {n : Nat} (hn : n < 0x10000000000000000) {rest : Bytes} (hrest : Ends rest) :
    scanNumber false (Decimal.digits n ++ rest) = .ok (.int n, rest) := by
  rw [scanNumber_digits false hn hrest, scanTail_of_ends false _ hrest]
  rfl

end Json
end FrameFeed
