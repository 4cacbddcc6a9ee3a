import FrameFeed.Json.Scan
/-!
# Reading JSON

`scanValue` reads a value in which at most `depth` lists and objects stand inside each other.
`scanSkipped` passes over a value nobody wants: it looks at the value's form alone, so a text in it
need not be UTF-8, a number may be of any size, and lists may stand inside each other without limit.
-/
namespace FrameFeed.Json

/-- Lists and objects may stand inside each other this deep. -/
def depthLimit : Nat := 127

/-- A value whose elements and members are read by `nested`, if it may have any. -/
def scanValueWith (nested : Option (Scan Json)) (s : Bytes) : Except Fault (Json × Bytes) :=
  match skipBlank s with
  | [] => .error .endInValue
  | 110 :: r => (wordNull r).map (.null, ·)
  | 116 :: r => (wordTrue r).map (.bool true, ·)
  | 102 :: r => (wordFalse r).map (.bool false, ·)
  | 45 :: r => (scanNumber true r).map fun (n, r) => (.num n, r)
  | 34 :: r => (scanText r).map fun (t, r) => (.str t, r)
  | 91 :: r =>
    match nested with
    | none => .error .tooDeep
    | some value =>
      (scanElements value (r.length + 1) true [] r).map fun (vs, r) => (.arr vs, r)
  | 123 :: r =>
    match nested with
    | none => .error .tooDeep
    | some value =>
      let step ms k s := do
        let (v, r) ← value (← colon s)
        return (insert k v ms, r)
      (scanMembers step (r.length + 1) true [] r).map fun (ms, r) => (.obj ms, r)
  | c :: r =>
    if Decimal.isDigit c then (scanNumber false (c :: r)).map fun (n, r) => (.num n, r)
    else .error .noValue

def scanValue : Nat → Scan Json
  | 0 => scanValueWith none
  | depth + 1 => scanValueWith (some (scanValue depth))

/-- A document is one value with blanks around it. -/
def whole {α : Type} (scan : Scan α) (s : Bytes) : Except Fault α :=
  match scan s with
  | .error e => .error e
  | .ok (v, r) => if (skipBlank r).isEmpty then .ok v else .error .trailingText

def parse (s : Bytes) : Except Fault Json := whole (scanValue depthLimit) s

/-! ## Values nobody wants -/

def skipDigits (s : Bytes) : Bytes := s.dropWhile Decimal.isDigit

/-- Passes over digits, of which there is at least one. -/
def someDigits : Bytes → Except Fault Bytes
  | c :: r => if Decimal.isDigit c then .ok (skipDigits r) else .error .badNumber
  | [] => .error .badNumber

def skipExponent (s : Bytes) : Except Fault Bytes :=
  match s with
  | 43 :: r | 45 :: r => someDigits r
  | r => someDigits r

def skipNumber (s : Bytes) : Except Fault Bytes := do
  let r ← match s with
    | 48 :: d :: r => if Decimal.isDigit d then throw .badNumber else pure (d :: r)
    | s => someDigits s
  let r ← match r with
    | 46 :: r => someDigits r
    | r => pure r
  match r with
  | 101 :: r | 69 :: r => skipExponent r
  | r => return r

/-- Passes over a text, after its opening quote. -/
def skipText (s : Bytes) : Except Fault Bytes :=
  (scanQuoted (fun r => (hexWord r).map fun _ => ([], 5)) [] 0 s).map (·.2)

/-- A value that is neither a list nor an object, or the opening of one. -/
def skipSimple (s : Bytes) : Except Fault (Option Bool × Bytes) :=
  match s with
  | [] => .error .endInValue
  | 110 :: r => (wordNull r).map (none, ·)
  | 116 :: r => (wordTrue r).map (none, ·)
  | 102 :: r => (wordFalse r).map (none, ·)
  | 45 :: r => (skipNumber r).map (none, ·)
  | 34 :: r => (skipText r).map (none, ·)
  | 91 :: r => .ok (some false, r)
  | 123 :: r => .ok (some true, r)
  | c :: r => if Decimal.isDigit c then (skipNumber (c :: r)).map (none, ·) else .error .noValue

/-- The key of a member and its colon. -/
def skipKey (s : Bytes) : Except Fault Bytes :=
  match skipBlank s with
  | [] => .error .endInObject
  | 34 :: r => do colon (← skipText r)
  | _ => .error .keyNotText

/-- After a value (`done`) or an opening (not `done`): closes what can be closed, up to the next
value. `frames` are the open lists (`false`) and objects (`true`), innermost first. Gives `none` for
the frames when all are closed. -/
def skipClosings (done : Bool) : List Bool → Bytes → Except Fault (Option (List Bool) × Bytes)
  | [], s => .ok (none, s)
  | isObject :: frames, s =>
    let next (s : Bytes) : Except Fault (Option (List Bool) × Bytes) := do
      if isObject then return (some (isObject :: frames), ← skipKey s)
      else return (some (isObject :: frames), s)
    match skipBlank s with
    | [] => .error (if isObject then .endInObject else .endInList)
    | c :: r =>
      if c = 44 && done then next r
      else if c = (if isObject then 125 else 93) then skipClosings true frames r
      else if done then .error (if isObject then .noObjectEnd else .noListEnd)
      else next (c :: r)

/-- Passes over values until no frame is open. Each turn takes at least one byte. -/
def skipValues : Nat → List Bool → Bytes → Except Fault Bytes
  | 0, _, _ => .error .endInValue
  | n + 1, frames, s => do
    let (opened, r) ← skipSimple (skipBlank s)
    let (left, r) ← match opened with
      | some isObject => skipClosings false (isObject :: frames) r
      | none => skipClosings true frames r
    match left with
    | none => return r
    | some frames => skipValues n frames r

def scanSkipped (s : Bytes) : Except Fault (Unit × Bytes) :=
  (skipValues (s.length + 1) [] s).map ((), ·)

end FrameFeed.Json
