import FrameFeed.Json.Parser
/-!
# Reading records

A `Decoder` reads a value of a type in two ways: straight from a document (`scan`), where the first
thing amiss is reported, be it in the form or in the type; and from a JSON value (`view`). A record
is an object of its fields in any order, other members being passed over, or a list of its fields
in their order; a field that is not required keeps the value it has in the blank record.
-/
namespace FrameFeed.Json

structure Decoder (α : Type) where
  /-- Reads a value in which this many lists and objects may stand inside each other. -/
  scan : Nat → Scan α
  view : Json → Except Fault α

/-- What is amiss with a value of the wrong type that starts here. -/
def mismatch (expected : String) (s : Bytes) : Fault :=
  let wrong {α : Type} (found : α → Found) : Except Fault α → Fault
    | .ok v => .wrongType (found v) expected
    | .error e => e
  match s with
  | 110 :: r => wrong (fun _ => .null) (wordNull r)
  | 116 :: r => wrong (fun _ => .bool true) (wordTrue r)
  | 102 :: r => wrong (fun _ => .bool false) (wordFalse r)
  | 45 :: r => wrong (·.1.found) (scanNumber true r)
  | 34 :: r => wrong (.text ·.1) (scanText r)
  | 91 :: _ => .wrongType .list expected
  | 123 :: _ => .wrongType .map expected
  | c :: r => if Decimal.isDigit c then wrong (·.1.found) (scanNumber false (c :: r)) else .noValue
  | [] => .noValue

namespace Decoder

variable {α β : Type}

/-- A scanner that looks at the first byte of the value. -/
def atValue (f : UInt8 → Bytes → Except Fault (α × Bytes)) (s : Bytes) : Except Fault (α × Bytes) :=
  match skipBlank s with
  | [] => .error .endInValue
  | c :: r => f c r

def text : Decoder String where
  scan _ := atValue fun c r => if c = 34 then scanText r else .error (mismatch "a string" (c :: r))
  view
    | .str s => .ok s
    | v => .error (.wrongType v.found "a string")

/-- The number as a whole number of thirty-two bits. -/
def word32Of (n : Number) : Except Fault Nat :=
  match n with
  | .int i => if 0 ≤ i ∧ i < 0x100000000 then .ok i.toNat else .error (.wrongValue (.int i) "u32")
  | .double b => .error (.wrongType (.double b) "u32")

def word32 : Decoder Nat where
  scan _ := atValue fun c r =>
    let read : Except Fault (Number × Bytes) → Except Fault (Nat × Bytes)
      | .ok (n, r) => (word32Of n).map (·, r)
      | .error e => .error e
    if c = 45 then read (scanNumber true r)
    else if Decimal.isDigit c then read (scanNumber false (c :: r))
    else .error (mismatch "u32" (c :: r))
  view
    | .num n => word32Of n
    | v => .error (.wrongType v.found "u32")

def json : Decoder Json where
  scan := scanValue
  view := .ok

def object : Decoder Members where
  scan depth := atValue fun c r =>
    if c = 123 then
      match scanValue depth (c :: r) with
      | .ok (.obj ms, r) => .ok (ms, r)
      | .ok (v, _) => .error (.wrongType v.found "a map")
      | .error e => .error e
    else .error (mismatch "a map" (c :: r))
  view
    | .obj ms => .ok ms
    | v => .error (.wrongType v.found "a map")

/-- Null for a value that is not there. -/
def optional (d : Decoder α) : Decoder (Option α) where
  scan depth := fun s =>
    match skipBlank s with
    | 110 :: r => (wordNull r).map (none, ·)
    | s => (d.scan depth s).map fun (v, r) => (some v, r)
  view
    | .null => .ok none
    | v => (d.view v).map some

/-! ## Names -/

/-- The value that a name stands for, among the spellings of all values. -/
def named (spellings : List (String × α)) (s : String) : Except Fault α :=
  match spellings.find? (·.1 = s) with
  | some (_, v) => .ok v
  | none => .error (.unknownName s (spellings.map (·.1)))

/-- A value written as its name, or as an object with the name as key of a null. -/
def name (spellings : List (String × α)) : Decoder α where
  scan depth := fun s =>
    match skipBlank s with
    | [] => .error .endInValue
    | 34 :: r =>
      match scanText r with
      | .ok (t, r) => (named spellings t).map (·, r)
      | .error e => .error e
    | 123 :: r =>
      if depth = 0 then .error .tooDeep
      else do
        let (t, r) ← match skipBlank r with
          | [] => throw .endInObject
          | 34 :: r => scanText r
          | 125 :: _ => throw .noValue
          | _ => throw .keyNotText
        let v ← named spellings t
        let r ← colon r
        let r ← match skipBlank r with
          | [] => throw .endInValue
          | 110 :: r => wordNull r
          | s => throw (mismatch "unit" s)
        match skipBlank r with
        | [] => throw .endInObject
        | 125 :: r => return (v, r)
        | _ => throw .noValue
    | _ => .error .noValue
  view
    | .str t => named spellings t
    | .obj [(t, v)] => do
      let x ← named spellings t
      if v = .null then return x else throw (.wrongType v.found "unit")
    | .obj _ => .error (.wrongValue .map "map with a single key")
    | v => .error (.wrongType v.found "string or map")

/-! ## Records -/

/-- A field of a record `α`: how to read it into the record. -/
structure Field (α : Type) where
  name : String
  required : Bool
  scan : Nat → α → Scan α
  view : α → Json → Except Fault α

def field (name : String) (required : Bool) (d : Decoder β) (set : α → β → α) : Field α where
  name
  required
  scan depth a s := (d.scan depth s).map fun (v, r) => (set a v, r)
  view a v := (d.view v).map (set a)

/-- How a record is named where its length is wrong. -/
def sized (name : String) (fields : List (Field α)) : String :=
  name ++ s!" with {fields.length} elements"

/-- A record with all the fields seen that it needs. -/
def complete (fields : List (Field α)) (seen : List String) (a : α) : Except Fault α :=
  match fields.find? fun f => f.required && !seen.contains f.name with
  | some f => .error (.missingField f.name)
  | none => .ok a

/-- Takes up one member of a record's object, after its key. -/
def scanMember (fields : List (Field α)) (depth : Nat) (state : α × List String) (key : String)
    (s : Bytes) : Except Fault ((α × List String) × Bytes) :=
  match fields.find? (·.name = key) with
  | some f =>
    if state.2.contains key then .error (.repeatedField key)
    else do
      let (a, r) ← f.scan depth state.1 (← colon s)
      return ((a, key :: state.2), r)
  | none => do
    let (_, r) ← scanSkipped (← colon s)
    return (state, r)

/-- The fields of a record written as a list, `i` of which have been read. -/
def scanFields (expected : String) (depth : Nat) : List (Field α) → Nat → α → Scan α
  | [], _, a, s => .ok (a, s)
  | f :: fs, i, a, s =>
    match nextElement (i = 0) s with
    | .error e => .error e
    | .ok (true, r) =>
      match f.scan depth a r with
      | .error e => .error e
      | .ok (a, r) => scanFields expected depth fs (i + 1) a r
    | .ok (false, r) =>
      if f.required then .error (.wrongLength i expected)
      else scanFields expected depth fs i a r

/-- The fields of a record given as a list of values, `i` of which have been read. -/
def viewFields (expected : String) : List (Field α) → Nat → α → List Json → Except Fault (α × List Json)
  | [], _, a, vs => .ok (a, vs)
  | f :: fs, i, a, v :: vs =>
    match f.view a v with
    | .error e => .error e
    | .ok a => viewFields expected fs (i + 1) a vs
  | f :: fs, i, a, [] =>
    if f.required then .error (.wrongLength i expected) else viewFields expected fs i a []

/-- The record called `name`, with these fields; `blank` holds what a field not given stands for. -/
def record (name : String) (fields : List (Field α)) (blank : α) : Decoder α where
  scan depth := atValue fun c r =>
    if c = 91 then
      match depth with
      | 0 => .error .tooDeep
      | depth + 1 => do
        let (a, r) ← scanFields (sized name fields) depth fields 0 blank r
        return (a, ← closeList r)
    else if c = 123 then
      match depth with
      | 0 => .error .tooDeep
      | depth + 1 => do
        let ((a, seen), r) ← scanMembers (scanMember fields depth) (r.length + 1) true (blank, []) r
        return (← complete fields seen a, r)
    else .error (mismatch name (c :: r))
  view
    | .arr vs => do
      let (a, left) ← viewFields (sized name fields) fields 0 blank vs
      if left.isEmpty then return a
      else throw (.wrongLength vs.length "fewer elements in array")
    | .obj ms => do
      let step (state : α × List String) (m : String × Json) : Except Fault (α × List String) :=
        match fields.find? (·.name = m.1) with
        | some f => (f.view state.1 m.2).map fun a => (a, m.1 :: state.2)
        | none => .ok state
      let (a, seen) ← ms.foldlM step (blank, [])
      complete fields seen a
    | v => .error (.wrongType v.found name)

/-- Reads a whole document. -/
def parse (d : Decoder α) (s : Bytes) : Except Fault α := whole (d.scan depthLimit) s

end Decoder
end FrameFeed.Json
