import FrameFeed.Proofs.Json.RoundTrip
import Mathlib.Data.List.DropRight
/-!
# Values passed over

A value that can be read can also be passed over, and what follows it is the same (`scanSkipped_of_scanValue`).
Passing over keeps a stack of the lists and objects that are open, where reading goes down into each of them:
the link is `Skips`, after a value the work goes on with the lists and objects around it (`resume`), whatever
they are.
-/
namespace FrameFeed.Json

/-! ## Steps that may fail -/

section
variable {α β : Type} {x : Except Fault α}

theorem bind_eq_ok {f : α → Except Fault β} {b : β} (h : (x >>= f) = .ok b) : ∃ a, x = .ok a ∧ f a = .ok b := by
  cases x with
  | error e => cases h
  | ok a => exact ⟨a, rfl, h⟩

theorem map_eq_ok {f : α → β} {b : β} (h : x.map f = .ok b) : ∃ a, x = .ok a ∧ f a = b := by
  cases x with
  | error e => cases h
  | ok a => cases h; exact ⟨a, rfl, rfl⟩

theorem bind_congr_of_ok {f g : α → Except Fault β} (h : ∀ a, x = .ok a → f a = g a) : (x >>= f) = (x >>= g) := by
  cases x with
  | error e => rfl
  | ok a => exact h a rfl

end

/-! ## Texts -/

/-- What passing over a text makes of a numbered escape. -/
def looseEscape (r : Bytes) : Except Fault (Bytes × Nat) := (hexWord r).map fun _ => ([], 5)

theorem skipText_eq (s : Bytes) : skipText s = (scanQuoted looseEscape [] 0 s).map (·.2) := rfl

section
variable {numbered : Bytes → Except Fault (Bytes × Nat)} {taken bs s r : Bytes} {n : Nat}

theorem le_length_of_scanQuoted (h : scanQuoted numbered taken n s = .ok (bs, r)) : n ≤ s.length := by
  induction n generalizing s with
  | zero => exact Nat.zero_le _
  | succ n ih =>
    cases s with
    | nil => cases h
    | cons c s => exact Nat.succ_le_succ (ih h)

theorem scanQuoted_drop (h : n ≤ s.length) :
    scanQuoted numbered taken n s = scanQuoted numbered taken 0 (s.drop n) := by
  induction n generalizing s with
  | zero => rfl
  | succ n ih =>
    cases s with
    | nil => exact absurd h (Nat.not_succ_le_zero n)
    | cons c s => exact ih (Nat.le_of_succ_le_succ h)

theorem exists_of_hexWord {m : Nat} (h : hexWord r = .ok m) : ∃ a b c d x, r = a :: b :: c :: d :: x := by
  unfold hexWord at h
  split at h
  · exact ⟨_, _, _, _, _, rfl⟩
  · cases h

theorem scanQuoted_loose {m : Nat} (h : hexWord r = .ok m) (taken : Bytes) :
    scanQuoted looseEscape taken 0 (92 :: 117 :: r) = scanQuoted looseEscape taken 0 (r.drop 4) := by
  obtain ⟨a, b, c, d, x, rfl⟩ := exists_of_hexWord h
  simp [scanQuoted, escape, looseEscape, h, Except.map]

/-- A pair of escapes that are read as one are passed over one after the other. -/
theorem scanQuoted_numbered (h : numberedEscape r = .ok (bs, n)) (taken : Bytes) :
    scanQuoted looseEscape taken 0 (92 :: 117 :: r) = scanQuoted looseEscape taken 0 ((117 :: r).drop n) := by
  unfold numberedEscape at h
  cases hw : hexWord r with
  | error e => rw [hw] at h; cases h
  | ok m =>
    rw [scanQuoted_loose hw]
    simp only [hw, bind, Except.bind] at h
    split at h
    · cases h
    split at h
    · -- the first half of a pair
      unfold lowSurrogate at h
      split at h
      · cases h
      · cases h
      · rename_i _ x hx
        cases hw' : hexWord x with
        | error e => rw [hw'] at h; cases h
        | ok m' =>
          simp only [hw', bind, Except.bind] at h
          split at h
          · simp only [pure, Except.pure, Except.ok.injEq, Prod.mk.injEq] at h
            have hdrop : (117 :: r).drop n = (r.drop 4).drop 6 := by
              rw [← h.2, List.drop_drop, List.drop_succ_cons]
            rw [hdrop, hx, scanQuoted_loose hw', List.drop_succ_cons, List.drop_succ_cons]
          · cases h
      · cases h
    · cases h; rfl

/-- An escape is passed over like one that is read. -/
theorem scanQuoted_escape (h : escape numberedEscape r = .ok (bs, n)) (taken : Bytes) :
    ∃ taken', scanQuoted looseEscape taken 0 (92 :: r) = scanQuoted looseEscape taken' 0 (r.drop n) := by
  unfold escape at h
  split at h
  case h_10 => exact ⟨taken, scanQuoted_numbered h taken⟩
  all_goals cases h
  all_goals exact ⟨_, rfl⟩

theorem exists_scanQuoted_loose (h : scanQuoted numberedEscape taken 0 s = .ok (bs, r)) (taken' : Bytes) :
    ∃ bs', scanQuoted looseEscape taken' 0 s = .ok (bs', r) := by
  induction hlength : s.length using Nat.strongRecOn generalizing s taken taken' with
  | ind l ih =>
    cases s with
    | nil => cases h
    | cons c s =>
      rw [List.length_cons] at hlength
      rw [scanQuoted] at h
      split at h
      · rename_i hquote
        cases h
        exact ⟨taken'.reverse, by rw [scanQuoted, if_pos hquote]⟩
      rename_i hquote
      split at h
      · rename_i hslash
        subst hslash
        split at h
        · cases h
        · rename_i es n he
          have hle := le_length_of_scanQuoted h
          rw [scanQuoted_drop hle] at h
          obtain ⟨taken'', hloose⟩ := scanQuoted_escape he taken'
          rw [hloose]
          exact ih _ (by rw [List.length_drop]; omega) h taken'' rfl
      · rename_i hslash
        split at h
        · cases h
        · rename_i hcontrol
          rw [scanQuoted, if_neg hquote, if_neg hslash, if_neg hcontrol]
          exact ih _ (by omega) h _ rfl

theorem skipText_of_scanText {t : String} (h : scanText s = .ok (t, r)) : skipText s = .ok r := by
  unfold scanText at h
  split at h
  · cases h
  · rename_i bs r' hq
    obtain ⟨bs', hloose⟩ := exists_scanQuoted_loose hq []
    split at h
    · cases h
      rw [skipText_eq, hloose]
      rfl
    · cases h

end

/-! ## Numbers -/

section
variable {s r : Bytes}

theorem someDigits_cons {c : UInt8} (h : Decimal.isDigit c = true) :
    someDigits (c :: s) = .ok (skipDigits (c :: s)) := by
  rw [someDigits, if_pos h, skipDigits, skipDigits, List.dropWhile_cons_of_pos h]

theorem snd_of_map {x : Except Fault Number} {n : Number} {t : Bytes} (h : x.map (·, t) = .ok (n, r)) : t = r := by
  cases x with
  | error e => cases h
  | ok m => cases h; rfl

theorem skipExponent_of_scanExponent {negative : Bool} {n : Nat} {e : Int} {x : Number}
    (h : scanExponent negative n e s = .ok (x, r)) : skipExponent s = .ok r := by
  unfold scanExponent at h
  split at h
  rename_i down t hsign
  have hskip : skipExponent s = someDigits t := by
    unfold skipExponent
    split at hsign
    · cases hsign; rfl
    · cases hsign; rfl
    · rename_i hminus hplus
      cases hsign
      split
      · exact absurd rfl (hplus _)
      · exact absurd rfl (hminus _)
      · rfl
  dsimp only at h
  split at h
  · cases h
  · rename_i c t
    split at h
    · cases h
    · rename_i hc
      have hdigit : Decimal.isDigit c = true := by simpa using hc
      rw [hskip, someDigits_cons hdigit, skipDigits]
      split at h
      · rw [snd_of_map h]
      · split at h
        · cases h; rfl
        · cases h

/-- The exponent of a number that is passed over. -/
def skipScale (s : Bytes) : Except Fault Bytes :=
  match s with
  | 101 :: r | 69 :: r => skipExponent r
  | r => .ok r

theorem skipScale_of_scanFraction {negative : Bool} {n : Nat} {e : Int} {x : Number}
    (h : scanFraction negative n e s = .ok (x, r)) : (someDigits s >>= skipScale) = .ok r := by
  unfold scanFraction at h
  dsimp only at h
  split at h
  · cases h
  · rename_i hempty
    have hdigits : someDigits s = .ok (skipDigits s) := by
      cases s with
      | nil => exact absurd rfl hempty
      | cons c s =>
        refine someDigits_cons ?_
        cases hc : Decimal.isDigit c with
        | true => rfl
        | false => simp [hc] at hempty
    rw [hdigits]
    show skipScale (skipDigits s) = .ok r
    unfold skipScale skipDigits
    split at h
    · rename_i hrest; rw [hrest]; exact skipExponent_of_scanExponent h
    · rename_i hrest; rw [hrest]; exact skipExponent_of_scanExponent h
    · rename_i hbig hsmall
      split
      · rename_i hrest; exact absurd hrest (hbig _)
      · rename_i hrest; exact absurd hrest (hsmall _)
      · rw [snd_of_map h]

/-- What follows the whole part of a number is passed over. -/
def skipTail (s : Bytes) : Except Fault Bytes :=
  match s with
  | 46 :: r => someDigits r >>= skipScale
  | r => skipScale r

theorem skipTail_of_scanTail {negative : Bool} {n e : Nat} {x : Number}
    (h : scanTail negative n e s = .ok (x, r)) : skipTail s = .ok r := by
  unfold scanTail at h
  unfold skipTail
  split at h
  · exact skipScale_of_scanFraction h
  · exact skipExponent_of_scanExponent h
  · exact skipExponent_of_scanExponent h
  · rename_i hpoint hbig hsmall
    have hrest : s = r := by
      split at h
      · exact snd_of_map h
      · split at h
        · cases h; rfl
        · split at h
          · cases h; rfl
          · exact snd_of_map h
    subst hrest
    unfold skipScale
    split
    · exact absurd rfl (hpoint _)
    · split
      · exact absurd rfl (hbig _)
      · exact absurd rfl (hsmall _)
      · rfl

/-- The whole part of a number is passed over. -/
def skipWhole (s : Bytes) : Except Fault Bytes :=
  match s with
  | 48 :: d :: r => if Decimal.isDigit d then .error .badNumber else .ok (d :: r)
  | s => someDigits s

theorem skipNumber_eq (s : Bytes) : skipNumber s = skipWhole s >>= skipTail := by
  have htail : ∀ t, skipTail t = match t with
      | 46 :: r => someDigits r >>= fun r => match r with
        | 101 :: r | 69 :: r => skipExponent r
        | r => pure r
      | r => pure r >>= fun r => match r with
        | 101 :: r | 69 :: r => skipExponent r
        | r => pure r := by
    intro t
    unfold skipTail skipScale
    split <;> rfl
  rw [funext htail]
  unfold skipNumber
  split
  · rw [skipWhole]
    split <;> rfl
  · rename_i hwhole
    rw [skipWhole]
    · rfl
    · exact hwhole

theorem skipNumber_of_scanNumber {negative : Bool} {x : Number} (h : scanNumber negative s = .ok (x, r)) :
    skipNumber s = .ok r := by
  rw [skipNumber_eq]
  unfold scanNumber at h
  split at h
  · cases h
  · -- a zero, after which no digit may stand
    rename_i t
    split at h
    · rename_i d t
      split at h
      · cases h
      · rename_i hd
        rw [skipWhole, if_neg hd]
        exact skipTail_of_scanTail h
    · exact skipTail_of_scanTail h
  · rename_i c t hzero
    split at h
    · rename_i hc
      rw [skipWhole, someDigits_cons hc]
      · exact skipTail_of_scanTail h
      · exact fun d r heq => hzero (List.cons.inj heq).1
    · cases h

end

/-! ## Every value takes a byte -/

section
variable {s r : Bytes}

theorem length_skipBlank (s : Bytes) : (skipBlank s).length ≤ s.length := (List.dropWhile_suffix _).length_le

theorem length_word {w : Bytes} (h : word w s = .ok r) : r.length ≤ s.length := by
  fun_induction word w s with
  | case1 => cases h; exact Nat.le_refl _
  | case2 => cases h
  | case3 _ _ _ ih => exact Nat.le_succ_of_le (ih h)
  | case4 => cases h

theorem length_someDigits (h : someDigits s = .ok r) : r.length < s.length := by
  unfold someDigits at h
  split at h
  · split at h
    · cases h; exact Nat.lt_succ_of_le (List.dropWhile_suffix _).length_le
    · cases h
  · cases h

theorem length_skipExponent (h : skipExponent s = .ok r) : r.length < s.length := by
  unfold skipExponent at h
  split at h
  · exact Nat.lt_succ_of_lt (length_someDigits h)
  · exact Nat.lt_succ_of_lt (length_someDigits h)
  · exact length_someDigits h

theorem length_skipScale (h : skipScale s = .ok r) : r.length ≤ s.length := by
  unfold skipScale at h
  split at h
  · exact Nat.le_succ_of_le (Nat.le_of_lt (length_skipExponent h))
  · exact Nat.le_succ_of_le (Nat.le_of_lt (length_skipExponent h))
  · cases h; exact Nat.le_refl _

theorem length_skipTail (h : skipTail s = .ok r) : r.length ≤ s.length := by
  unfold skipTail at h
  split at h
  · obtain ⟨t, ht, hr⟩ := bind_eq_ok h
    have := length_someDigits ht
    have := length_skipScale hr
    simp only [List.length_cons]
    omega
  · exact length_skipScale h

theorem length_skipNumber (h : skipNumber s = .ok r) : r.length < s.length := by
  rw [skipNumber_eq] at h
  obtain ⟨t, ht, hr⟩ := bind_eq_ok h
  refine Nat.lt_of_le_of_lt (length_skipTail hr) ?_
  unfold skipWhole at ht
  split at ht
  · split at ht
    · cases ht
    · cases ht; exact Nat.lt_succ_self _
  · exact length_someDigits ht

theorem length_scanQuoted {numbered : Bytes → Except Fault (Bytes × Nat)} {taken bs : Bytes} {n : Nat}
    (h : scanQuoted numbered taken n s = .ok (bs, r)) : r.length < s.length := by
  fun_induction scanQuoted numbered taken n s with
  | case1 => cases h
  | case2 _ _ _ _ ih => exact Nat.lt_succ_of_lt (ih h)
  | case3 => cases h; exact Nat.lt_succ_self _
  | case4 => cases h
  | case5 _ _ _ _ _ _ ih => exact Nat.lt_succ_of_lt (ih h)
  | case6 => cases h
  | case7 _ _ _ _ _ _ ih => exact Nat.lt_succ_of_lt (ih h)

theorem length_skipText (h : skipText s = .ok r) : r.length < s.length := by
  rw [skipText_eq] at h
  obtain ⟨⟨bs, t⟩, hq, he⟩ := map_eq_ok h
  cases he
  exact length_scanQuoted hq

theorem length_skipSimple {opened : Option Bool} (h : skipSimple s = .ok (opened, r)) : r.length < s.length := by
  unfold skipSimple at h
  split at h
  · cases h
  · obtain ⟨t, ht, he⟩ := map_eq_ok h
    cases he
    exact Nat.lt_succ_of_le (length_word ht)
  · obtain ⟨t, ht, he⟩ := map_eq_ok h
    cases he
    exact Nat.lt_succ_of_le (length_word ht)
  · obtain ⟨t, ht, he⟩ := map_eq_ok h
    cases he
    exact Nat.lt_succ_of_le (length_word ht)
  · obtain ⟨t, ht, he⟩ := map_eq_ok h
    cases he
    exact Nat.lt_succ_of_lt (length_skipNumber ht)
  · obtain ⟨t, ht, he⟩ := map_eq_ok h
    cases he
    exact Nat.lt_succ_of_lt (length_skipText ht)
  · cases h; exact Nat.lt_succ_self _
  · cases h; exact Nat.lt_succ_self _
  · split at h
    · obtain ⟨t, ht, he⟩ := map_eq_ok h
      cases he
      exact length_skipNumber ht
    · cases h

theorem length_of_skipBlank_cons {c : UInt8} {x : Bytes} (h : skipBlank s = c :: x) : x.length < s.length := by
  have := length_skipBlank s
  rw [h] at this
  exact this

theorem length_colon (h : colon s = .ok r) : r.length ≤ s.length := by
  unfold colon at h
  split at h
  · cases h
  · rename_i t ht
    cases h
    exact Nat.le_of_lt (length_of_skipBlank_cons ht)
  · cases h

theorem length_skipKey (h : skipKey s = .ok r) : r.length ≤ s.length := by
  unfold skipKey at h
  split at h
  · cases h
  · rename_i t ht
    obtain ⟨u, hu, hr⟩ := bind_eq_ok h
    have := length_of_skipBlank_cons ht
    have := length_skipText hu
    have := length_colon hr
    omega
  · cases h

/-- Up to the next value of the list or the object that is open: in an object its key stands before it. -/
def toValue (isObject : Bool) (s : Bytes) : Except Fault Bytes := if isObject then skipKey s else .ok s

theorem length_toValue {isObject : Bool} (h : toValue isObject s = .ok r) : r.length ≤ s.length := by
  unfold toValue at h
  split at h
  · exact length_skipKey h
  · cases h; exact Nat.le_refl _

theorem skipClosings_cons (done isObject : Bool) (frames : List Bool) (s : Bytes) :
    skipClosings done (isObject :: frames) s = match skipBlank s with
      | [] => .error (if isObject then .endInObject else .endInList)
      | c :: r =>
        if c = 44 && done then (toValue isObject r).map (some (isObject :: frames), ·)
        else if c = (if isObject then 125 else 93) then skipClosings true frames r
        else if done then .error (if isObject then .noObjectEnd else .noListEnd)
        else (toValue isObject (c :: r)).map (some (isObject :: frames), ·) := by
  have hmap : ∀ (x : Except Fault Bytes), (do return (some (isObject :: frames), ← x)) =
      x.map ((some (isObject :: frames), ·)) := fun x => by cases x <;> rfl
  cases isObject with
  | true =>
    simp only [skipClosings, if_true, hmap]
    rfl
  | false => rfl

theorem length_skipClosings {done : Bool} {frames : List Bool} {left : Option (List Bool)}
    (h : skipClosings done frames s = .ok (left, r)) : r.length ≤ s.length := by
  induction frames generalizing done s with
  | nil => cases h; exact Nat.le_refl _
  | cons isObject frames ih =>
    rw [skipClosings_cons] at h
    split at h
    · cases h
    · rename_i c t ht
      have hlength := length_skipBlank s
      rw [ht] at hlength
      have htail := Nat.le_of_succ_le hlength
      split at h
      · obtain ⟨u, hu, he⟩ := map_eq_ok h
        cases he
        exact Nat.le_trans (length_toValue hu) htail
      by_cases hclose : c = (if isObject then 125 else 93)
      · rw [if_pos hclose] at h
        exact Nat.le_trans (ih h) htail
      rw [if_neg hclose] at h
      split at h
      · cases h
      · obtain ⟨u, hu, he⟩ := map_eq_ok h
        cases he
        exact Nat.le_trans (length_toValue hu) hlength

end

/-! ## Passing over, without a bound on the turns -/

/-- Closes what can be closed after a value or after an opening. -/
def closings (opened : Option Bool) (frames : List Bool) (s : Bytes) :
    Except Fault (Option (List Bool) × Bytes) :=
  match opened with
  | some isObject => skipClosings false (isObject :: frames) s
  | none => skipClosings true frames s

/-- Goes on with the next value, if anything is open. -/
def proceed (next : List Bool → Bytes → Except Fault Bytes) : Option (List Bool) × Bytes → Except Fault Bytes
  | (none, r) => .ok r
  | (some frames, r) => next frames r

theorem skipValues_succ (n : Nat) (frames : List Bool) (s : Bytes) :
    skipValues (n + 1) frames s = skipSimple (skipBlank s) >>= fun (opened, r) =>
      closings opened frames r >>= proceed (skipValues n) := by
  rw [skipValues]
  congr 1
  funext ⟨opened, r⟩
  cases opened <;>
  · dsimp only [closings]
    congr 1
    funext ⟨left, r⟩
    cases left <;> rfl

section
variable {s r : Bytes} {n m : Nat} {frames : List Bool}

theorem length_closings {opened : Option Bool} {left : Option (List Bool)}
    (h : closings opened frames s = .ok (left, r)) : r.length ≤ s.length := by
  cases opened with
  | none => exact length_skipClosings h
  | some isObject => exact length_skipClosings h

/-- There are always turns enough. -/
theorem skipValues_eq (frames : List Bool) (hn : s.length < n) (hm : s.length < m) :
    skipValues n frames s = skipValues m frames s := by
  induction n generalizing m frames s with
  | zero => exact absurd hn (Nat.not_lt_zero _)
  | succ n ih =>
    obtain ⟨m, rfl⟩ := Nat.exists_eq_succ_of_ne_zero (Nat.ne_of_gt (Nat.lt_of_le_of_lt (Nat.zero_le _) hm))
    rw [skipValues_succ, skipValues_succ]
    refine bind_congr_of_ok fun ⟨opened, r⟩ hsimple => bind_congr_of_ok fun ⟨left, r'⟩ hclosings => ?_
    have hblank := length_skipBlank s
    have hr := length_skipSimple hsimple
    have hr' := length_closings hclosings
    cases left with
    | none => rfl
    | some frames => exact ih frames (by omega) (by omega)

/-- Passes over values until no list and no object is open. -/
def skipAll (frames : List Bool) (s : Bytes) : Except Fault Bytes := skipValues (s.length + 1) frames s

/-- Goes on after a value, or after the opening of a list or an object. -/
def resume (opened : Option Bool) (frames : List Bool) (s : Bytes) : Except Fault Bytes :=
  closings opened frames s >>= proceed skipAll

theorem skipAll_eq (frames : List Bool) (s : Bytes) :
    skipAll frames s = skipSimple (skipBlank s) >>= fun (opened, r) => resume opened frames r := by
  rw [skipAll, skipValues_succ]
  refine bind_congr_of_ok fun ⟨opened, r⟩ hsimple => bind_congr_of_ok fun ⟨left, r'⟩ hclosings => ?_
  have hblank := length_skipBlank s
  have hr := length_skipSimple hsimple
  have hr' := length_closings hclosings
  cases left with
  | none => rfl
  | some frames => exact skipValues_eq frames (by omega) (Nat.lt_succ_self _)

/-- Passing over the value at the front leaves this, and the work goes on there, whatever is open. -/
def Skips (s r : Bytes) : Prop := ∀ frames, skipAll frames s = resume none frames r

theorem skipAll_skipBlank (frames : List Bool) (s : Bytes) : skipAll frames (skipBlank s) = skipAll frames s := by
  rw [skipAll_eq, skipAll_eq, show skipBlank (skipBlank s) = skipBlank s from List.dropWhile_idempotent _ s]

/-- A value that holds no others. -/
theorem skips_of_simple {x : Except Fault Bytes} (hs : skipSimple (skipBlank s) = x.map (none, ·))
    (hx : x = .ok r) : Skips s r := by
  intro frames
  rw [skipAll_eq, hs, hx]
  rfl

/-! ## Lists and objects -/

/-- What is open after the opening of a list or an object, or after one of its elements. -/
def within (first isObject : Bool) (frames : List Bool) (s : Bytes) : Except Fault Bytes :=
  skipClosings (!first) (isObject :: frames) s >>= proceed skipAll

theorem within_close {first isObject : Bool} (h : skipBlank s = (if isObject then 125 else 93) :: r) :
    within first isObject frames s = resume none frames r := by
  rw [within, skipClosings_cons, h]
  cases isObject <;> rfl

/-- The next value is passed over with this open. -/
theorem within_value {first isObject : Bool} {c : UInt8} {x t : Bytes} (hx : skipBlank s = c :: x)
    (hclose : c ≠ if isObject then 125 else 93)
    (ht : toValue isObject (if first then c :: x else x) = .ok t) (hcomma : first = false → c = 44) :
    within first isObject frames s = skipAll (isObject :: frames) t := by
  rw [within, skipClosings_cons, hx]
  cases first with
  | true =>
    rw [if_pos rfl] at ht
    simp only [Bool.not_true, Bool.and_false, Bool.false_eq_true, if_false, if_neg hclose, ht]
    rfl
  | false =>
    rw [if_neg Bool.false_ne_true] at ht
    simp only [hcomma rfl, ht]
    rfl

theorem within_of_nextElement {first : Bool} {t : Bytes} (h : nextElement first s = .ok (true, t)) :
    within first false frames s = skipAll (false :: frames) t := by
  unfold nextElement at h
  split at h
  · cases h
  · cases h
  · rename_i c x hclose hx
    split at h
    · rename_i hfirst
      cases h
      exact within_value hx hclose (by rw [if_pos hfirst]; rfl) (by simp [hfirst])
    · rename_i hfirst
      split at h
      · rename_i hcomma
        split at h
        · cases h
        · cases h
        · cases h
          rw [skipAll_skipBlank]
          exact within_value hx hclose (by rw [if_neg hfirst]; rfl) fun _ => hcomma
      · cases h

theorem within_of_nextElement_end {first : Bool} {t : Bytes} (h : nextElement first s = .ok (false, t))
    (hclose : closeList t = .ok r) : within first false frames s = resume none frames r := by
  unfold nextElement at h
  split at h
  · cases h
  · rename_i x hx
    cases h
    cases hclose
    exact within_close hx
  · split at h
    · cases h
    · split at h
      · split at h <;> cases h
      · cases h

/-- The elements of a list are passed over one by one, and then the list is closed. -/
theorem within_of_scanElements {item : Scan Json} (hitem : ∀ s v r, item s = .ok (v, r) → Skips s r)
    {first : Bool} {taken vs : List Json} (h : scanElements item n first taken s = .ok (vs, r)) :
    within first false frames s = resume none frames r := by
  induction n generalizing first taken s with
  | zero => cases h
  | succ n ih =>
    rw [scanElements] at h
    split at h
    · cases h
    · rename_i t hnext
      obtain ⟨u, hclose, he⟩ := map_eq_ok h
      cases he
      exact within_of_nextElement_end hnext hclose
    · rename_i t hnext
      split at h
      · cases h
      · rename_i v u hv
        have hskips := hitem t v u hv (false :: frames)
        have hrest := ih h
        rw [within_of_nextElement hnext, hskips]
        exact hrest

theorem within_of_nextMember {first : Bool} {t u v : Bytes} {k : String} (h : nextMember first s = .ok (true, t))
    (hk : scanText (t.drop 1) = .ok (k, u)) (hv : colon u = .ok v) :
    within first true frames s = skipAll (true :: frames) v := by
  have hkey : ∀ x, skipBlank x = 34 :: t.drop 1 → toValue true x = .ok v := by
    intro x hx
    rw [toValue, if_pos rfl, skipKey, hx]
    show (skipText (t.drop 1) >>= colon) = .ok v
    rw [skipText_of_scanText hk]
    exact hv
  unfold nextMember at h
  split at h
  · cases h
  · cases h
  · rename_i c x hclose hx
    split at h
    · rename_i hfirst
      split at h
      · rename_i hquote
        cases h
        subst hquote
        refine within_value hx hclose (hkey _ ?_) (by simp [hfirst])
        rw [if_pos hfirst]
        rfl
      · cases h
    · rename_i hfirst
      split at h
      · rename_i hcomma
        split at h
        · cases h
        · rename_i y hy
          cases h
          refine within_value hx hclose (hkey _ ?_) fun _ => hcomma
          rw [if_neg hfirst, hy]
          rfl
        · cases h
        · cases h
      · cases h

theorem within_of_nextMember_end {first : Bool} {t : Bytes} (h : nextMember first s = .ok (false, t))
    (hclose : closeObject t = .ok r) : within first true frames s = resume none frames r := by
  unfold nextMember at h
  split at h
  · cases h
  · rename_i x hx
    cases h
    cases hclose
    exact within_close hx
  · split at h
    · split at h <;> cases h
    · split at h
      · split at h <;> cases h
      · cases h

/-- The members of an object are passed over one by one, and then the object is closed. -/
theorem within_of_scanMembers {value : Scan Json} (hvalue : ∀ s v r, value s = .ok (v, r) → Skips s r)
    {first : Bool} {taken ms : Members} (h : scanMembers (takeMember value) n first taken s = .ok (ms, r)) :
    within first true frames s = resume none frames r := by
  induction n generalizing first taken s with
  | zero => cases h
  | succ n ih =>
    rw [scanMembers] at h
    split at h
    · cases h
    · rename_i t hnext
      obtain ⟨u, hclose, he⟩ := map_eq_ok h
      cases he
      exact within_of_nextMember_end hnext hclose
    · rename_i t hnext
      split at h
      · cases h
      · rename_i k u hk
        split at h
        · cases h
        · rename_i ms' w hstep
          obtain ⟨u', hcolon, hstep⟩ := bind_eq_ok hstep
          obtain ⟨⟨v, w'⟩, hv, he⟩ := bind_eq_ok hstep
          cases he
          have hskips := hvalue u' v w hv (true :: frames)
          have hrest := ih h
          rw [within_of_nextMember hnext hk hcolon, hskips]
          exact hrest

/-! ## All values -/

theorem skips_of_scanValueWith {nested : Option (Scan Json)}
    (hnested : ∀ value ∈ nested, ∀ s v r, value s = .ok (v, r) → Skips s r) {v : Json}
    (h : scanValueWith nested s = .ok (v, r)) : Skips s r := by
  unfold scanValueWith at h
  split at h
  · cases h
  · rename_i x hx
    obtain ⟨t, ht, he⟩ := map_eq_ok h
    cases he
    exact skips_of_simple (by rw [hx]; rfl) ht
  · rename_i x hx
    obtain ⟨t, ht, he⟩ := map_eq_ok h
    cases he
    exact skips_of_simple (by rw [hx]; rfl) ht
  · rename_i x hx
    obtain ⟨t, ht, he⟩ := map_eq_ok h
    cases he
    exact skips_of_simple (by rw [hx]; rfl) ht
  · rename_i x hx
    obtain ⟨⟨n, t⟩, ht, he⟩ := map_eq_ok h
    cases he
    exact skips_of_simple (by rw [hx]; rfl) (skipNumber_of_scanNumber ht)
  · rename_i x hx
    obtain ⟨⟨n, t⟩, ht, he⟩ := map_eq_ok h
    cases he
    exact skips_of_simple (by rw [hx]; rfl) (skipText_of_scanText ht)
  · rename_i x hx
    split at h
    · cases h
    · rename_i value
      obtain ⟨⟨vs, t⟩, ht, he⟩ := map_eq_ok h
      cases he
      intro frames
      rw [skipAll_eq, hx]
      exact within_of_scanElements (hnested value rfl) ht
  · rename_i x hx
    split at h
    · cases h
    · rename_i value
      obtain ⟨⟨ms, t⟩, ht, he⟩ := map_eq_ok h
      cases he
      intro frames
      rw [skipAll_eq, hx]
      exact within_of_scanMembers (hnested value rfl) ht
  · rename_i c x hnull htrue hfalse hminus hquote hlist hobject hx
    split at h
    · rename_i hc
      obtain ⟨⟨n, t⟩, ht, he⟩ := map_eq_ok h
      cases he
      have hsimple : skipSimple (skipBlank s) = (skipNumber (c :: x)).map (none, ·) := by
        rw [hx, skipSimple, if_pos hc]
        all_goals assumption
      exact skips_of_simple hsimple (skipNumber_of_scanNumber ht)
    · cases h

theorem skips_of_scanValue {depth : Nat} {v : Json} (h : scanValue depth s = .ok (v, r)) : Skips s r := by
  induction depth generalizing s v r with
  | zero => exact @skips_of_scanValueWith _ _ none nofun _ h
  | succ depth ih =>
    refine skips_of_scanValueWith (fun value hvalue s v r hv => ?_) h
    cases hvalue
    exact ih hv

/-- **What can be read can be passed over**, and what follows it is the same. -/
theorem scanSkipped_of_scanValue {depth : Nat} {v : Json} (h : scanValue depth s = .ok (v, r)) :
    scanSkipped s = .ok ((), r) := by
  have hall : skipAll [] s = .ok r := skips_of_scanValue h []
  rw [skipAll] at hall
  rw [scanSkipped, hall]
  rfl

end

end FrameFeed.Json
