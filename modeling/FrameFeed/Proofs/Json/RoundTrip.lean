import FrameFeed.Json.Decoder
import FrameFeed.Proofs.Json.Words
import Mathlib.Data.List.Forall2
/-!
# Values read back

A value without doubles whose whole numbers fit in sixty-four bits (`Exact`) is read as it was written
(`parse_print`). How the members of an object are taken up is left open (`Takes`), so that the same holds of
records (`Decoder.parse_record`).
-/
namespace FrameFeed.Json

/-- Writing and reading such a value changes nothing: whole numbers fit, doubles do not occur, and the members
of an object stand in the order of their keys. -/
inductive Exact : Json → Prop
  | null : Exact .null
  | bool (b : Bool) : Exact (.bool b)
  | int {i : Int} (low : -0x8000000000000000 ≤ i) (high : i < 0x10000000000000000) : Exact (.num (.int i))
  | str (s : String) : Exact (.str s)
  | arr {vs : List Json} (items : ∀ v ∈ vs, Exact v) : Exact (.arr vs)
  | obj {ms : Members} (sorted : ms.Pairwise (·.1 < ·.1)) (values : ∀ m ∈ ms, Exact m.2) : Exact (.obj ms)

/-! ## The first byte of a value -/

theorem skipBlank_cons {c : UInt8} (h : isBlank c = false) (x : Bytes) : skipBlank (c :: x) = c :: x := by
  simp [skipBlank, h]

theorem ne_of_isDigit {c d : UInt8} (h : Decimal.isDigit c = true) (hd : Decimal.isDigit d = false) : c ≠ d := by
  intro he
  rw [he, hd] at h
  cases h

theorem isBlank_of_isDigit {c : UInt8} (h : Decimal.isDigit c = true) : isBlank c = false := by
  simp [isBlank, ne_of_isDigit h (d := 32) rfl, ne_of_isDigit h (d := 10) rfl,
    ne_of_isDigit h (d := 9) rfl, ne_of_isDigit h (d := 13) rfl]

theorem exists_digits_cons (n : Nat) : ∃ d ds, Decimal.digits n = d :: ds ∧ Decimal.isDigit d = true := by
  obtain ⟨d, ds, h⟩ := List.exists_cons_of_ne_nil (Decimal.digits_ne_nil n)
  exact ⟨d, ds, h, Decimal.isDigit_of_mem_digits (by rw [h]; exact .head _)⟩

/-- What is written of a value begins with a byte that is neither a blank nor the end of a list. -/
def Starts (v : Json) : Prop := ∃ c x, print v = c :: x ∧ isBlank c = false ∧ c ≠ 93

theorem print_cons {v : Json} (h : Exact v) : Starts v := by
  unfold Starts
  cases h with
  | null => exact ⟨_, _, rfl, rfl, by decide⟩
  | bool b => cases b <;> exact ⟨_, _, rfl, rfl, by decide⟩
  | str s => exact ⟨_, _, by rw [print, printText, List.cons_append], rfl, by decide⟩
  | arr => exact ⟨_, _, by rw [print, List.cons_append], rfl, by decide⟩
  | obj => exact ⟨_, _, by rw [print, List.cons_append], rfl, by decide⟩
  | @int i =>
    obtain ⟨d, ds, hds, hd⟩ := exists_digits_cons i.natAbs
    rw [print, Number.print, printInt]
    split
    · exact ⟨_, _, rfl, rfl, by decide⟩
    · exact ⟨d, ds, hds, isBlank_of_isDigit hd, ne_of_isDigit hd rfl⟩

/-! ## Values without nesting -/

theorem scanValueWith_digit {c : UInt8} (h : Decimal.isDigit c = true) (nested : Option (Scan Json))
    (x : Bytes) :
    scanValueWith nested (c :: x) = (scanNumber false (c :: x)).map fun (n, r) => (.num n, r) := by
  have hne : ∀ d, Decimal.isDigit d = false → c ≠ d := fun d => ne_of_isDigit h
  rw [scanValueWith, skipBlank_cons (isBlank_of_isDigit h)]
  simp [hne 110 rfl, hne 116 rfl, hne 102 rfl, hne 45 rfl, hne 34 rfl, hne 91 rfl, hne 123 rfl, h]

theorem scanValueWith_int (nested : Option (Scan Json)) {i : Int} (low : -0x8000000000000000 ≤ i)
    (high : i < 0x10000000000000000) {rest : Bytes} (hrest : Ends rest) :
    scanValueWith nested (printInt i ++ rest) = .ok (.num (.int i), rest) := by
  rw [printInt]
  by_cases hneg : i < 0
  · have hscan : scanNumber true (Decimal.digits i.natAbs ++ rest) = .ok (.int i, rest) := by
      rw [scanNumber_digits true (by omega) hrest, scanTail_of_ends true _ hrest]
      have hsmall : (0 < i.natAbs && i.natAbs ≤ 0x8000000000000000) = true := by
        simp only [Bool.and_eq_true, decide_eq_true_eq]
        omega
      have hvalue : -(i.natAbs : Int) = i := by omega
      simp only [Bool.not_true, Bool.false_eq_true, if_false, hsmall, if_true, hvalue]
    rw [if_pos hneg, List.cons_append, scanValueWith, skipBlank_cons rfl]
    simp only [hscan]
    rfl
  · have hscan := @scanNumber_natural i.natAbs (by omega) _ hrest
    have hvalue : (i.natAbs : Int) = i := by omega
    rw [hvalue] at hscan
    obtain ⟨d, ds, hds, hd⟩ := exists_digits_cons i.natAbs
    rw [if_neg hneg]
    rw [hds, List.cons_append] at hscan ⊢
    rw [scanValueWith_digit hd, hscan]
    rfl

theorem scanValueWith_str (nested : Option (Scan Json)) (s : String) (rest : Bytes) :
    scanValueWith nested (printText s ++ rest) = .ok (.str s, rest) := by
  rw [printText_append, scanValueWith, skipBlank_cons rfl]
  simp only [scanText_escaped]
  rfl

/-! ## Lists -/

/-- What follows the first element of a list. -/
def tailItems : List Json → Bytes
  | [] => []
  | v :: vs => 44 :: printItems (v :: vs)

theorem printItems_cons (v : Json) (vs : List Json) : printItems (v :: vs) = print v ++ tailItems vs := by
  cases vs with
  | nil => rw [printItems, tailItems, List.append_nil]
  | cons w vs => rw [printItems, tailItems]; simp

theorem ends_tailItems (vs : List Json) (rest : Bytes) : Ends (tailItems vs ++ 93 :: rest) := by
  cases vs with
  | nil => exact ⟨rfl, by decide, by decide, by decide⟩
  | cons v vs => exact ⟨rfl, by decide, by decide, by decide⟩

theorem length_le_printItems {vs : List Json} (h : ∀ v ∈ vs, Starts v) : vs.length ≤ (printItems vs).length := by
  induction vs with
  | nil => exact Nat.zero_le _
  | cons v vs ih =>
    obtain ⟨c, x, hp, -⟩ := h v (.head _)
    have hvs := ih fun w hw => h w (.tail _ hw)
    rw [printItems_cons, hp]
    cases vs with
    | nil => simp
    | cons w vs =>
      simp only [tailItems, List.length_append, List.length_cons] at hvs ⊢
      omega

section
variable {item : Scan Json} {v : Json} {vs ws : List Json} {n : Nat}

/-- What is left of a list before these elements: the first of all stands right behind the bracket. -/
def leadItems (first : Bool) (vs : List Json) : Bytes := if first then printItems vs else tailItems vs

theorem nextElement_cons (first : Bool) (h : Starts v) (vs : List Json) (rest : Bytes) :
    nextElement first (leadItems first (v :: vs) ++ 93 :: rest) =
      .ok (true, print v ++ (tailItems vs ++ 93 :: rest)) := by
  obtain ⟨c, y, hp, hblank, hend⟩ := h
  cases first with
  | true =>
    rw [leadItems, if_pos rfl, printItems_cons, hp]
    simp [nextElement, skipBlank_cons hblank]
  | false =>
    rw [leadItems, if_neg Bool.false_ne_true, tailItems, printItems_cons, hp]
    simp [nextElement, skipBlank_cons hblank, skipBlank_cons (show isBlank 44 = false from rfl), hend]

/-- An element is read as one value, whatever ends it. -/
def ReadBy (item : Scan Json) (v w : Json) : Prop := Starts v ∧ ∀ x, Ends x → item (print v ++ x) = .ok (w, x)

/-- The elements of a list are read one by one. -/
theorem scanElements_lead (h : List.Forall₂ (ReadBy item) vs ws) (hn : vs.length < n) (first : Bool)
    (taken : List Json) (rest : Bytes) :
    scanElements item n first taken (leadItems first vs ++ 93 :: rest) = .ok (taken.reverse ++ ws, rest) := by
  induction h generalizing n first taken with
  | nil =>
    cases n with
    | zero => exact absurd hn (Nat.not_lt_zero _)
    | succ n =>
      cases first <;>
        simp [scanElements, leadItems, printItems, tailItems, nextElement, closeList, skipBlank, isBlank, Except.map]
  | @cons v w vs ws hvw _ ih =>
    obtain ⟨hstart, hitem⟩ := hvw
    cases n with
    | zero => exact absurd hn (Nat.not_lt_zero _)
    | succ n =>
      have hvs := ih (Nat.lt_of_succ_lt_succ hn) false (w :: taken)
      rw [List.reverse_cons, List.append_assoc] at hvs
      rw [scanElements, nextElement_cons first hstart]
      simp only [hitem _ (ends_tailItems vs rest)]
      exact hvs

theorem length_lt_printItems (h : ∀ v ∈ vs, Starts v) (rest : Bytes) :
    vs.length < (printItems vs ++ 93 :: rest).length + 1 := by
  have := length_le_printItems h
  rw [List.length_append]
  omega

/-- There are turns enough to read all elements of a list. -/
theorem scanElements_print (hstarts : ∀ v ∈ vs, Starts v) (h : List.Forall₂ (ReadBy item) vs ws) (rest : Bytes) :
    scanElements item ((printItems vs ++ 93 :: rest).length + 1) true [] (printItems vs ++ 93 :: rest) =
      .ok (ws, rest) :=
  scanElements_lead h (length_lt_printItems hstarts rest) true [] rest

end

/-! ## Objects -/

/-- Members, each with the text of its value. -/
abbrev Texts := List (String × Bytes)

/-- The texts of these members, as they are written. -/
def written (ms : Members) : Texts := ms.map fun m => (m.1, print m.2)

/-- Members in the order given, separated by commas. -/
def joinMembers : Texts → Bytes
  | [] => []
  | [(k, t)] => printText k ++ 58 :: t
  | (k, t) :: ms => printText k ++ 58 :: t ++ 44 :: joinMembers ms

/-- An object with these members. -/
def joinObject (ms : Texts) : Bytes := 123 :: joinMembers ms ++ [125]

theorem joinMembers_written (ms : Members) : joinMembers (written ms) = printMembers ms := by
  induction ms with
  | nil => rfl
  | cons m ms ih =>
    obtain ⟨k, v⟩ := m
    cases ms with
    | nil => rfl
    | cons m ms =>
      rw [printMembers, ← ih]
      · rfl
      · exact nofun

/-- What follows the first member of an object. -/
def tailMembers : Texts → Bytes
  | [] => []
  | m :: ms => 44 :: joinMembers (m :: ms)

theorem joinMembers_cons (k : String) (t : Bytes) (ms : Texts) :
    joinMembers ((k, t) :: ms) = printText k ++ 58 :: (t ++ tailMembers ms) := by
  cases ms with
  | nil => rw [joinMembers, tailMembers, List.append_nil]
  | cons m ms =>
    rw [joinMembers, tailMembers]
    · simp
    · exact nofun

theorem ends_tailMembers (ms : Texts) (rest : Bytes) : Ends (tailMembers ms ++ 125 :: rest) := by
  cases ms with
  | nil => exact ⟨rfl, by decide, by decide, by decide⟩
  | cons m ms => exact ⟨rfl, by decide, by decide, by decide⟩

theorem length_le_joinMembers (ms : Texts) : ms.length ≤ (joinMembers ms).length := by
  induction ms with
  | nil => exact Nat.zero_le _
  | cons m ms ih =>
    obtain ⟨k, t⟩ := m
    rw [joinMembers_cons, printText]
    cases ms with
    | nil => simp
    | cons m ms =>
      simp only [tailMembers, List.length_append, List.length_cons] at ih ⊢
      omega

section
variable {σ : Type} {step : σ → String → Scan σ}

/-- Taking up these members, one after the other, leads from one state to the other. -/
def Takes (step : σ → String → Scan σ) : Texts → σ → σ → Prop
  | [], s, s' => s = s'
  | (k, t) :: ms, s, s' =>
    ∃ s₁, (∀ x, Ends x → step s k (58 :: (t ++ x)) = .ok (s₁, x)) ∧ Takes step ms s₁ s'

/-- The key of a member is read as it was written, and then the member is taken up. -/
theorem scanMembers_member {n : Nat} {first : Bool} {k : String} {start x : Bytes}
    (hnext : nextMember first start = .ok (true, printText k ++ 58 :: x)) (s : σ) :
    scanMembers step (n + 1) first s start =
      (step s k (58 :: x)).bind fun p => scanMembers step n false p.1 p.2 := by
  rw [scanMembers, hnext]
  simp only [printText_append, List.drop_succ_cons, List.drop_zero, scanText_escaped]
  cases step s k (58 :: x) <;> rfl

/-- What is left of an object before these members: the first of all stands right behind the brace. -/
def leadMembers (first : Bool) (ms : Texts) : Bytes := if first then joinMembers ms else tailMembers ms

theorem nextMember_cons (first : Bool) (k : String) (t : Bytes) (ms : Texts) (rest : Bytes) :
    nextMember first (leadMembers first ((k, t) :: ms) ++ 125 :: rest) =
      .ok (true, printText k ++ 58 :: (t ++ (tailMembers ms ++ 125 :: rest))) := by
  cases first with
  | true =>
    rw [leadMembers, if_pos rfl, joinMembers_cons]
    simp [nextMember, printText, skipBlank_cons (show isBlank 34 = false from rfl)]
  | false =>
    rw [leadMembers, if_neg Bool.false_ne_true, tailMembers, joinMembers_cons]
    simp [nextMember, printText, skipBlank_cons (show isBlank 44 = false from rfl),
      skipBlank_cons (show isBlank 34 = false from rfl)]

/-- The members of an object are taken up one by one. -/
theorem scanMembers_lead {ms : Texts} {s s' : σ} (h : Takes step ms s s') {n : Nat} (hn : ms.length < n)
    (first : Bool) (rest : Bytes) :
    scanMembers step n first s (leadMembers first ms ++ 125 :: rest) = .ok (s', rest) := by
  induction ms generalizing n s first with
  | nil =>
    cases n with
    | zero => exact absurd hn (Nat.not_lt_zero _)
    | succ n =>
      rw [show s = s' from h]
      cases first <;>
        simp [scanMembers, leadMembers, joinMembers, tailMembers, nextMember, closeObject, skipBlank, isBlank,
          Except.map]
  | cons m ms ih =>
    obtain ⟨k, t⟩ := m
    obtain ⟨s₁, hstep, hms⟩ := h
    cases n with
    | zero => exact absurd hn (Nat.not_lt_zero _)
    | succ n =>
      rw [scanMembers_member (nextMember_cons first k t ms rest), hstep _ (ends_tailMembers ms rest)]
      exact ih hms (Nat.lt_of_succ_lt_succ hn) false

theorem length_lt_joinMembers (ms : Texts) (rest : Bytes) :
    ms.length < (joinMembers ms ++ 125 :: rest).length + 1 := by
  have := length_le_joinMembers ms
  rw [List.length_append]
  omega

/-- The members of an object are taken up as they stand, and there are turns enough for that. -/
theorem scanMembers_join {ms : Texts} {s s' : σ} (h : Takes step ms s s') (rest : Bytes) :
    scanMembers step ((joinMembers ms ++ 125 :: rest).length + 1) true s (joinMembers ms ++ 125 :: rest) =
      .ok (s', rest) :=
  scanMembers_lead h (length_lt_joinMembers ms rest) true rest

end

/-- A key beyond all others is put last. -/
theorem insert_last {k : String} {ms : Members} (h : ∀ m ∈ ms, m.1 < k) (v : Json) :
    insert k v ms = ms ++ [(k, v)] := by
  induction ms with
  | nil => rfl
  | cons m ms ih =>
    obtain ⟨l, w⟩ := m
    have hl : l < k := h _ (.head _)
    have hlt : ¬k < l := String.lt_asymm hl
    have hne : k ≠ l := fun he => String.lt_irrefl l (he ▸ hl)
    rw [insert, if_neg hlt, if_neg hne, ih fun m hm => h m (.tail _ hm)]
    rfl

theorem sorted_of_keys {ms : Members} (keys : List String) (h : ms.map (·.1) = keys)
    (hkeys : keys.Pairwise (· < ·)) : ms.Pairwise (·.1 < ·.1) := by
  rw [← h] at hkeys
  exact List.pairwise_map.1 hkeys

theorem colon_cons (x : Bytes) : colon (58 :: x) = .ok x := by
  simp [colon, skipBlank_cons (show isBlank 58 = false from rfl)]

/-- What a reader of an object does with one member. -/
def takeMember (value : Scan Json) (ms : Members) (k : String) (s : Bytes) : Except Fault (Members × Bytes) := do
  let (v, r) ← value (← colon s)
  return (insert k v ms, r)

/-- Members in the order of their keys are taken up as they stand. -/
theorem takes_sorted {value : Scan Json} {ms taken : Members}
    (hvalue : ∀ m ∈ ms, ∀ x, Ends x → value (print m.2 ++ x) = .ok (m.2, x))
    (hsorted : (taken ++ ms).Pairwise (·.1 < ·.1)) :
    Takes (takeMember value) (written ms) taken (taken ++ ms) := by
  induction ms generalizing taken with
  | nil => exact (List.append_nil taken).symm
  | cons m ms ih =>
    obtain ⟨k, v⟩ := m
    have hlast : insert k v taken = taken ++ [(k, v)] := by
      refine insert_last (fun m hm => ?_) v
      exact (List.pairwise_append.1 hsorted).2.2 m hm (k, v) (.head _)
    have happend : taken ++ (k, v) :: ms = (taken ++ [(k, v)]) ++ ms := by simp
    refine ⟨taken ++ [(k, v)], fun x hx => ?_, ?_⟩
    · simp only [takeMember, colon_cons, bind, Except.bind, hvalue (k, v) (.head _) x hx, hlast, pure,
        Except.pure]
    · rw [happend] at hsorted ⊢
      exact ih (fun m hm => hvalue m (.tail _ hm)) hsorted

/-! ## All values -/

theorem depth_le_of_mem_items {v : Json} {vs : List Json} (h : v ∈ vs) : v.depth ≤ depthItems vs := by
  induction vs with
  | nil => cases h
  | cons w vs ih =>
    rw [depthItems]
    rcases List.mem_cons.1 h with rfl | h
    · exact Nat.le_max_left _ _
    · exact Nat.le_trans (ih h) (Nat.le_max_right _ _)

theorem depth_le_of_mem_members {m : String × Json} {ms : Members} (h : m ∈ ms) :
    m.2.depth ≤ depthMembers ms := by
  induction ms with
  | nil => cases h
  | cons l ms ih =>
    obtain ⟨k, v⟩ := l
    rw [depthMembers]
    rcases List.mem_cons.1 h with rfl | h
    · exact Nat.le_max_left _ _
    · exact Nat.le_trans (ih h) (Nat.le_max_right _ _)

/-- A value that holds no other is read as it was written. -/
theorem scanValueWith_flat {v : Json} (h : Exact v) (hflat : v.depth = 0) (nested : Option (Scan Json))
    {rest : Bytes} (hrest : Ends rest) : scanValueWith nested (print v ++ rest) = .ok (v, rest) := by
  cases h with
  | null => rfl
  | bool b => cases b <;> rfl
  | int low high => exact scanValueWith_int nested low high hrest
  | str s => exact scanValueWith_str nested s rest
  | arr items => cases hflat
  | obj sorted values => cases hflat

theorem scanValue_object {depth : Nat} {ms : Texts} {vs : Members}
    (h : Takes (takeMember (scanValue depth)) ms [] vs) (rest : Bytes) :
    scanValue (depth + 1) (joinObject ms ++ rest) = .ok (.obj vs, rest) := by
  have hobject := scanMembers_join h rest
  have hjoin : joinObject ms ++ rest = 123 :: (joinMembers ms ++ 125 :: rest) := by simp [joinObject]
  rw [hjoin, scanValue, scanValueWith, skipBlank_cons rfl]
  unfold takeMember at hobject
  simp only [hobject]
  rfl

/-- A value is read as it was written, whatever ends it. -/
theorem scanValue_print {depth : Nat} {v : Json} (h : Exact v) (hdepth : v.depth ≤ depth) {rest : Bytes}
    (hrest : Ends rest) : scanValue depth (print v ++ rest) = .ok (v, rest) := by
  induction depth generalizing v rest with
  | zero => exact scanValueWith_flat h (Nat.le_zero.1 hdepth) none hrest
  | succ depth ih =>
    cases h with
    | @arr vs items =>
      rw [Json.depth] at hdepth
      have hitems : List.Forall₂ (ReadBy (scanValue depth)) vs vs := List.forall₂_same.2 fun v hv =>
        ⟨print_cons (items v hv), fun x hx =>
          ih (items v hv) (Nat.le_trans (depth_le_of_mem_items hv) (Nat.le_of_succ_le_succ hdepth)) hx⟩
      have hlist := scanElements_print (fun v hv => print_cons (items v hv)) hitems rest
      have hprint : print (.arr vs) ++ rest = 91 :: (printItems vs ++ 93 :: rest) := by
        rw [print]; simp
      rw [hprint, scanValue, scanValueWith, skipBlank_cons rfl]
      simp only [hlist]
      rfl
    | @obj ms sorted values =>
      rw [Json.depth] at hdepth
      have hvalue : ∀ m ∈ ms, ∀ x, Ends x → scanValue depth (print m.2 ++ x) = .ok (m.2, x) := fun m hm x hx =>
        ih (values m hm) (Nat.le_trans (depth_le_of_mem_members hm) (Nat.le_of_succ_le_succ hdepth)) hx
      have htakes : Takes (takeMember (scanValue depth)) (written ms) [] ms := takes_sorted hvalue sorted
      have hprint : print (.obj ms) = joinObject (written ms) := by
        rw [print, joinObject, joinMembers_written]
      rw [hprint]
      exact scanValue_object htakes rest
    | null => exact scanValueWith_flat .null rfl _ hrest
    | bool b => exact scanValueWith_flat (.bool b) rfl _ hrest
    | int low high => exact scanValueWith_flat (.int low high) rfl _ hrest
    | str s => exact scanValueWith_flat (.str s) rfl _ hrest

theorem whole_of_scan {α : Type} {scan : Scan α} {s : Bytes} {a : α} (h : scan s = .ok (a, [])) :
    whole scan s = .ok a := by
  rw [whole, h]; rfl

/-- **A document is read as it was written.** -/
theorem parse_print {v : Json} (h : Exact v) (hdepth : v.depth ≤ depthLimit) : parse v.print = .ok v := by
  have hscan : scanValue depthLimit (v.print ++ []) = .ok (v, []) := scanValue_print h hdepth trivial
  rw [List.append_nil] at hscan
  exact whole_of_scan hscan

/-! ## Records -/

namespace Decoder

variable {α β : Type}

/-- A decoder reads this value as `a`, whatever ends it. -/
def Reads (d : Decoder α) (depth : Nat) (v : Json) (a : α) : Prop :=
  ∀ x, Ends x → d.scan depth (print v ++ x) = .ok (a, x)

theorem reads_text (depth : Nat) (s : String) : text.Reads depth (.str s) s := by
  intro x _
  rw [print, printText_append]
  simp only [text, atValue, skipBlank_cons (show isBlank 34 = false from rfl), if_true, scanText_escaped]

/-- A whole number of thirty-two bits. -/
theorem reads_word32 {n : Nat} (h : n < 0x100000000) (depth : Nat) : word32.Reads depth (.num (.int n)) n := by
  intro x hx
  have hprint : print (.num (.int n)) = Decimal.digits n := by
    rw [print, Number.print, printInt, if_neg (by omega)]
    rfl
  have hscan := @scanNumber_natural n (by omega) _ hx
  have hrange : (0 : Int) ≤ n ∧ (n : Int) < 0x100000000 := by omega
  obtain ⟨d, ds, hds, hd⟩ := exists_digits_cons n
  rw [hprint, hds, List.cons_append]
  rw [hds, List.cons_append] at hscan
  have hminus : d ≠ 45 := ne_of_isDigit hd rfl
  simp only [word32, atValue, skipBlank_cons (isBlank_of_isDigit hd), if_neg hminus, if_pos hd, hscan, word32Of,
    if_pos hrange, Int.toNat_natCast]
  rfl

/-- A value that is written as its name. -/
theorem reads_name {spellings : List (String × α)} {s : String} {a : α} (h : named spellings s = .ok a)
    (depth : Nat) : (name spellings).Reads depth (.str s) a := by
  intro x _
  rw [print, printText_append]
  simp only [name, skipBlank_cons (show isBlank 34 = false from rfl), scanText_escaped, h]
  rfl

theorem print_obj_append (ms : Members) (x : Bytes) :
    print (.obj ms) ++ x = 123 :: (printMembers ms ++ 125 :: x) := by
  rw [print]
  simp

/-- An object that is read as a value is read as an object. -/
theorem reads_object_as {depth : Nat} {ms ms' : Members}
    (h : ∀ x, Ends x → scanValue depth (print (.obj ms) ++ x) = .ok (.obj ms', x)) :
    object.Reads depth (.obj ms) ms' := by
  intro x hx
  have hvalue := h x hx
  rw [print_obj_append] at hvalue ⊢
  simp only [object, atValue, skipBlank_cons (show isBlank 123 = false from rfl), if_true, hvalue]

theorem reads_object {depth : Nat} {ms : Members} (h : Exact (.obj ms)) (hdepth : (Json.obj ms).depth ≤ depth) :
    object.Reads depth (.obj ms) ms :=
  reads_object_as fun _ hx => scanValue_print h hdepth hx

theorem reads_optional_object {depth : Nat} {ms : Members} {a : α} {d : Decoder α}
    (h : d.Reads depth (.obj ms) a) : (optional d).Reads depth (.obj ms) (some a) := by
  intro x hx
  have hvalue := h x hx
  rw [print_obj_append] at hvalue ⊢
  simp [optional, skipBlank_cons (show isBlank 123 = false from rfl), hvalue, Except.map]

/-- A field that was not seen before is taken up. -/
theorem scanMember_field {fields : List (Field α)} {depth : Nat} {a : α} {b : β} {seen : List String}
    {key : String} {required : Bool} {d : Decoder β} {set : α → β → α} {t x : Bytes}
    (hfind : fields.find? (·.name = key) = some (field key required d set))
    (hseen : key ∉ seen) (hreads : d.scan depth (t ++ x) = .ok (b, x)) :
    scanMember fields depth (a, seen) key (58 :: (t ++ x)) = .ok ((set a b, key :: seen), x) := by
  simp [scanMember, hfind, field, hseen, colon_cons, hreads, bind, Except.bind, Except.map, pure, Except.pure]

theorem takes_member {fields : List (Field α)} {depth : Nat} {a : α} {b : β} {seen : List String}
    {key : String} {required : Bool} {d : Decoder β} {set : α → β → α} {v : Json} {ms : Texts}
    {s : α × List String} (hfind : fields.find? (·.name = key) = some (field key required d set))
    (hseen : key ∉ seen) (hreads : d.Reads depth v b)
    (hms : Takes (scanMember fields depth) ms (set a b, key :: seen) s) :
    Takes (scanMember fields depth) ((key, print v) :: ms) (a, seen) s :=
  ⟨_, fun x hx => scanMember_field hfind hseen (hreads x hx), hms⟩

/-- A record is read from the members of an object. -/
theorem parse_object (seen : List String) {name : String} {fields : List (Field α)} {blank a : α}
    {ms : Texts} (htakes : Takes (scanMember fields (depthLimit - 1)) ms (blank, []) (a, seen))
    (hcomplete : complete fields seen a = .ok a) :
    (record name fields blank).parse (joinObject ms) = .ok a := by
  refine whole_of_scan ?_
  have hmembers := scanMembers_join htakes []
  have hdepth : depthLimit = (depthLimit - 1) + 1 := rfl
  rw [joinObject, List.cons_append, hdepth]
  simp only [record, atValue, skipBlank_cons (show isBlank 123 = false from rfl), hmembers, bind, Except.bind,
    hcomplete]
  rfl

/-- A record is read from the members that were written. -/
theorem parse_record (seen : List String) {name : String} {fields : List (Field α)} {blank a : α}
    {ms : Members} (htakes : Takes (scanMember fields (depthLimit - 1)) (written ms) (blank, []) (a, seen))
    (hcomplete : complete fields seen a = .ok a) :
    (record name fields blank).parse (printRecord ms) = .ok a := by
  rw [printRecord, ← joinMembers_written]
  exact parse_object seen htakes hcomplete

/-- What a record makes of one member of a value. -/
def viewMember (fields : List (Field α)) (state : α × List String) (m : String × Json) :
    Except Fault (α × List String) :=
  match fields.find? (·.name = m.1) with
  | some f => (f.view state.1 m.2).map fun a => (a, m.1 :: state.2)
  | none => .ok state

theorem viewMember_field {fields : List (Field α)} {a : α} {b : β} {seen : List String} {key : String}
    {required : Bool} {d : Decoder β} {set : α → β → α} {v : Json}
    (hfind : fields.find? (·.name = key) = some (field key required d set)) (hview : d.view v = .ok b) :
    viewMember fields (a, seen) (key, v) = .ok (set a b, key :: seen) := by
  simp only [viewMember, hfind, field, hview]
  rfl

theorem view_member {fields : List (Field α)} {a : α} {b : β} {seen : List String} {key : String}
    {required : Bool} {d : Decoder β} {set : α → β → α} {v : Json} {ms : Members} {s : α × List String}
    (hfind : fields.find? (·.name = key) = some (field key required d set)) (hview : d.view v = .ok b)
    (hms : ms.foldlM (viewMember fields) (set a b, key :: seen) = .ok s) :
    List.foldlM (viewMember fields) (a, seen) ((key, v) :: ms) = .ok s := by
  rw [List.foldlM_cons, viewMember_field hfind hview]
  exact hms

/-- A record is read from the members of a value. -/
theorem view_record (seen : List String) {name : String} {fields : List (Field α)} {blank a : α}
    {ms : Members} (hms : ms.foldlM (viewMember fields) (blank, []) = .ok (a, seen))
    (hcomplete : complete fields seen a = .ok a) : (record name fields blank).view (.obj ms) = .ok a := by
  have hstep : (record name fields blank).view (.obj ms) =
      ms.foldlM (viewMember fields) (blank, []) >>= fun s => complete fields s.2 s.1 := rfl
  rw [hstep, hms]
  exact hcomplete

end Decoder

end FrameFeed.Json
