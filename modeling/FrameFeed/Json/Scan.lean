import FrameFeed.Json.Fault
/-!
# The words of a JSON document

A scanner takes the document from where it stands and gives what it read with the rest. Here are the
scanners for blanks, words, numbers and texts, and for what stands between the elements of a list
and the members of an object.
-/
namespace FrameFeed.Json

abbrev Scan (α : Type) := Bytes → Except Fault (α × Bytes)

def isBlank (b : UInt8) : Bool := b = 32 || b = 10 || b = 9 || b = 13

def skipBlank (s : Bytes) : Bytes := s.dropWhile isBlank

/-- The rest of a word whose first letter has been read. -/
def word : Bytes → Bytes → Except Fault Bytes
  | [], s => .ok s
  | _ :: _, [] => .error .endInValue
  | w :: ws, c :: s => if c = w then word ws s else .error .noWord

def wordNull (s : Bytes) := word [117, 108, 108] s
def wordTrue (s : Bytes) := word [114, 117, 101] s
def wordFalse (s : Bytes) := word [97, 108, 115, 101] s

/-! ## Numbers

A whole number that fits in sixty-four bits is kept exactly. Any other number is read as a
significand of at most sixty-four bits and a power of ten, and becomes the product or the quotient
of two doubles.
-/

/-- Takes digits into a significand as long as it stays below `2^64`; gives also those not taken. -/
def absorb (n : Nat) : Bytes → Nat × Bytes
  | [] => (n, [])
  | d :: ds =>
    let m := 10 * n + Decimal.digitValue d
    if m < 0x10000000000000000 then absorb m ds else (n, d :: ds)

/-- `f · 10^e`, in steps that stay in the range of doubles. -/
def scaleTen (f : Binary64) (e : Int) : Except Fault Binary64 :=
  if h : -308 ≤ e ∧ e ≤ 308 then
    let power := (Binary64.nearest (Nat.pow 10 e.natAbs) 1).getD 0
    match if 0 ≤ e then f.mul power else f.div power with
    | some g => .ok g
    | none => .error .numberOutOfRange
  else if f.isZero then .ok f
  else if 0 ≤ e then .error .numberOutOfRange
  else scaleTen ((f.div ((Binary64.nearest (Nat.pow 10 308) 1).getD 0)).getD 0) (e + 308)
termination_by (-e).toNat
decreasing_by omega

def doubleOf (negative : Bool) (n : Nat) (e : Int) : Except Fault Number := do
  let f ← scaleTen ((Binary64.nearest n 1).getD 0) e
  return .double (if negative then f.negate else f)

/-- The exponent, after its letter. -/
def scanExponent (negative : Bool) (n : Nat) (e : Int) (s : Bytes) : Except Fault (Number × Bytes) :=
  let (down, s) := match s with
    | 45 :: r => (true, r)
    | 43 :: r => (false, r)
    | r => (false, r)
  match s with
  | [] => .error .endInValue
  | c :: _ =>
    if !Decimal.isDigit c then .error .badNumber
    else
      let x := Decimal.ofDigits (s.takeWhile Decimal.isDigit)
      let rest := s.dropWhile Decimal.isDigit
      if x < 0x80000000 then
        (doubleOf negative n (if down then e - x else e + x)).map (·, rest)
      else if n = 0 || down then
        .ok (.double (if negative then Binary64.zero.negate else Binary64.zero), rest)
      else .error .numberOutOfRange

/-- The fraction, after the point. -/
def scanFraction (negative : Bool) (n : Nat) (e : Int) (s : Bytes) : Except Fault (Number × Bytes) :=
  let ds := s.takeWhile Decimal.isDigit
  let rest := s.dropWhile Decimal.isDigit
  if ds.isEmpty then .error (if rest.isEmpty then .endInValue else .badNumber)
  else
    let (n, left) := absorb n ds
    let e := e - (ds.length - left.length : Nat)
    match rest with
    | 101 :: r | 69 :: r => scanExponent negative n e r
    | _ => (doubleOf negative n e).map (·, rest)

/-- What follows the whole part `n · 10^e` of a number. -/
def scanTail (negative : Bool) (n : Nat) (e : Nat) (s : Bytes) : Except Fault (Number × Bytes) :=
  match s with
  | 46 :: r => scanFraction negative n e r
  | 101 :: r | 69 :: r => scanExponent negative n e r
  | _ =>
    if 0 < e then (doubleOf negative n e).map (·, s)
    else if !negative then .ok (.int n, s)
    else if 0 < n && n ≤ 0x8000000000000000 then .ok (.int (-n), s)
    else (doubleOf true n 0).map (·, s)

/-- A number, after its sign. -/
def scanNumber (negative : Bool) (s : Bytes) : Except Fault (Number × Bytes) :=
  match s with
  | [] => .error .endInValue
  | 48 :: r =>
    match r with
    | d :: _ => if Decimal.isDigit d then .error .badNumber else scanTail negative 0 0 r
    | [] => scanTail negative 0 0 r
  | c :: _ =>
    if Decimal.isDigit c then
      let (n, left) := absorb 0 (s.takeWhile Decimal.isDigit)
      scanTail negative n left.length (s.dropWhile Decimal.isDigit)
    else .error .badNumber

/-! ## Texts -/

def hexValue? (b : UInt8) : Option Nat :=
  if 48 ≤ b && b ≤ 57 then some (b.toNat - 48)
  else if 97 ≤ b && b ≤ 102 then some (b.toNat - 87)
  else if 65 ≤ b && b ≤ 70 then some (b.toNat - 55)
  else none

/-- Four hexadecimal digits. -/
def hexWord : Bytes → Except Fault Nat
  | a :: b :: c :: d :: _ =>
    match hexValue? a, hexValue? b, hexValue? c, hexValue? d with
    | some a, some b, some c, some d => .ok (((a * 16 + b) * 16 + c) * 16 + d)
    | _, _, _, _ => .error .badEscape
  | _ => .error .endInText

def utf8 (n : Nat) : Bytes := String.utf8EncodeChar (Char.ofNat n)

/-- The second half of a pair of surrogates, after the first half `n`. -/
def lowSurrogate (n : Nat) : Bytes → Except Fault (Bytes × Nat)
  | [] => .error .endInText
  | 92 :: [] => .error .endInText
  | 92 :: 117 :: r => do
    let m ← hexWord r
    if 0xdc00 ≤ m && m ≤ 0xdfff then
      return (utf8 ((n - 0xd800) * 0x400 + (m - 0xdc00) + 0x10000), 11)
    else throw .loneSurrogate
  | _ => .error .shortEscape

/-- What a numbered escape stands for, and its length. -/
def numberedEscape (r : Bytes) : Except Fault (Bytes × Nat) := do
  let n ← hexWord r
  if 0xdc00 ≤ n && n ≤ 0xdfff then throw .loneSurrogate
  else if 0xd800 ≤ n && n ≤ 0xdbff then lowSurrogate n (r.drop 4)
  else return (utf8 n, 5)

/-- What the escape after a backslash stands for, and its length. `numbered` reads the hexadecimal
ones. -/
def escape (numbered : Bytes → Except Fault (Bytes × Nat)) : Bytes → Except Fault (Bytes × Nat)
  | [] => .error .endInText
  | 34 :: _ => .ok ([34], 1)
  | 92 :: _ => .ok ([92], 1)
  | 47 :: _ => .ok ([47], 1)
  | 98 :: _ => .ok ([8], 1)
  | 102 :: _ => .ok ([12], 1)
  | 110 :: _ => .ok ([10], 1)
  | 114 :: _ => .ok ([13], 1)
  | 116 :: _ => .ok ([9], 1)
  | 117 :: r => numbered r
  | _ => .error .badEscape

/-- The bytes up to the closing quote, with escapes resolved. `taken` holds those read so far, last
first, and `skip` counts the bytes of an escape still to be passed over. -/
def scanQuoted (numbered : Bytes → Except Fault (Bytes × Nat)) (taken : Bytes) (skip : Nat) :
    Scan Bytes
  | [] => .error .endInText
  | c :: r =>
    match skip with
    | n + 1 => scanQuoted numbered taken n r
    | 0 =>
      if c = 34 then .ok (taken.reverse, r)
      else if c = 92 then
        match escape numbered r with
        | .error e => .error e
        | .ok (bs, n) => scanQuoted numbered (bs.reverse ++ taken) n r
      else if c < 32 then .error .controlCharacter
      else scanQuoted numbered (c :: taken) 0 r

/-- A text, after its opening quote. -/
def scanText (s : Bytes) : Except Fault (String × Bytes) :=
  match scanQuoted numberedEscape [] 0 s with
  | .error e => .error e
  | .ok (bs, r) =>
    match Bytes.toText? bs with
    | some t => .ok (t, r)
    | none => .error .badUtf8

/-! ## Lists and objects -/

/-- Whether another element follows, and where it starts. -/
def nextElement (first : Bool) (s : Bytes) : Except Fault (Bool × Bytes) :=
  match skipBlank s with
  | [] => .error .endInList
  | 93 :: r => .ok (false, 93 :: r)
  | c :: r =>
    if first then .ok (true, c :: r)
    else if c = 44 then
      match skipBlank r with
      | [] => .error .endInValue
      | 93 :: _ => .error .trailingComma
      | r => .ok (true, r)
    else .error .noListEnd

/-- Whether another member follows, and where its key starts. -/
def nextMember (first : Bool) (s : Bytes) : Except Fault (Bool × Bytes) :=
  match skipBlank s with
  | [] => .error .endInObject
  | 125 :: r => .ok (false, 125 :: r)
  | c :: r =>
    if first then if c = 34 then .ok (true, c :: r) else .error .keyNotText
    else if c = 44 then
      match skipBlank r with
      | [] => .error .endInValue
      | 34 :: r => .ok (true, 34 :: r)
      | 125 :: _ => .error .trailingComma
      | _ => .error .keyNotText
    else .error .noObjectEnd

/-- The end of a list none of whose elements is left to read. -/
def closeList (s : Bytes) : Except Fault Bytes :=
  match skipBlank s with
  | [] => .error .endInList
  | 93 :: r => .ok r
  | 44 :: r =>
    match skipBlank r with
    | 93 :: _ => .error .trailingComma
    | _ => .error .trailingText
  | _ => .error .trailingText

/-- The end of an object none of whose members is left to read. -/
def closeObject (s : Bytes) : Except Fault Bytes :=
  match skipBlank s with
  | [] => .error .endInObject
  | 125 :: r => .ok r
  | 44 :: _ => .error .trailingComma
  | _ => .error .trailingText

/-- The colon after a key. -/
def colon (s : Bytes) : Except Fault Bytes :=
  match skipBlank s with
  | [] => .error .endInObject
  | 58 :: r => .ok r
  | _ => .error .noColon

variable {α σ : Type}

/-- The elements of a list, after its opening bracket. There are at most as many as bytes. -/
def scanElements (item : Scan α) : Nat → Bool → List α → Scan (List α)
  | 0, _, _, _ => .error .endInList
  | n + 1, first, taken, s =>
    match nextElement first s with
    | .error e => .error e
    | .ok (false, r) => (closeList r).map (taken.reverse, ·)
    | .ok (true, r) =>
      match item r with
      | .error e => .error e
      | .ok (v, r) => scanElements item n false (v :: taken) r

/-- The members of an object, after its opening brace: `step` takes up one member after its key.
There are at most as many as bytes. -/
def scanMembers (step : σ → String → Scan σ) : Nat → Bool → σ → Scan σ
  | 0, _, _, _ => .error .endInObject
  | n + 1, first, state, s =>
    match nextMember first s with
    | .error e => .error e
    | .ok (false, r) => (closeObject r).map (state, ·)
    | .ok (true, r) =>
      match scanText (r.drop 1) with
      | .error e => .error e
      | .ok (k, r) =>
        match step state k r with
        | .error e => .error e
        | .ok (state, r) => scanMembers step n false state r

end FrameFeed.Json
