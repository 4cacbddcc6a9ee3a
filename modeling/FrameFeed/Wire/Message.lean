import FrameFeed.Wire.Error
/-!
# Messages on the wire

A message is a payload of a kind. On the wire a header of eight bytes stands before the payload: the
magic number `46 57`, the payload's length as a little-endian word, the kind, and a reserved byte,
which is written as zero and not looked at.

`decode` takes one message off the front of a buffer; while the message is not complete it asks for
more, and it refuses a header by its first flaw in the order magic, kind, length. `decodeAll` takes
off as many as there are.
-/
namespace FrameFeed

inductive Kind where
  | json
  | binary
deriving DecidableEq, Repr

namespace Kind

def code : Kind → UInt8
  | json => 1
  | binary => 2

def ofCode? : UInt8 → Option Kind
  | 1 => some json
  | 2 => some binary
  | _ => none

def name : Kind → String
  | json => "json"
  | binary => "binary"

theorem ofCode?_code (k : Kind) : ofCode? k.code = some k := by cases k <;> rfl

end Kind

structure Message where
  kind : Kind
  payload : Bytes
deriving DecidableEq, Repr

namespace Message

def headerSize : Nat := 8

/-- The largest payload a peer takes unless told otherwise: 64 MiB. -/
def defaultLimit : Nat := 64 * 1024 * 1024

def wireSize (m : Message) : Nat := headerSize + m.payload.length

/-- The largest length a header can hold. -/
def lengthLimit : Nat := 0xffffffff

def header (k : Kind) (length : Nat) : Except WireError Bytes :=
  if lengthLimit < length then .error (.payloadTooLarge length lengthLimit)
  else .ok (0x46 :: 0x57 :: Bytes.word32 length ++ [k.code, 0])

/-- The message on the wire. -/
def encode (m : Message) : Except WireError Bytes :=
  (header m.kind m.payload.length).map (· ++ m.payload)

/-- Appends the message to a buffer, which stays as it is if the message is refused. -/
def encodeTo (b : Bytes) (m : Message) : Except WireError Unit × Bytes :=
  match m.encode with
  | .error e => (.error e, b)
  | .ok w => (.ok (), b ++ w)

/-- The message at the front of a buffer and what follows it; nothing while it is not complete. -/
def decode (limit : Nat) (b : Bytes) : Except WireError (Option (Message × Bytes)) :=
  match b with
  | m₁ :: m₂ :: l₁ :: l₂ :: l₃ :: l₄ :: k :: _ :: rest =>
    if m₁ ≠ 0x46 ∨ m₂ ≠ 0x57 then .error .badMagic
    else
      match Kind.ofCode? k with
      | none => .error (.unknownKind k)
      | some kind =>
        let length := Bytes.le32 l₁ l₂ l₃ l₄
        if limit < length then .error (.payloadTooLarge length limit)
        else if rest.length < length then .ok none
        else .ok (some (⟨kind, rest.take length⟩, rest.drop length))
  | _ => .ok none

/-- Takes the message at the front off a buffer, which otherwise stays as it is. -/
def decodeFrom (limit : Nat) (b : Bytes) : Except WireError (Option Message) × Bytes :=
  match decode limit b with
  | .error e => (.error e, b)
  | .ok none => (.ok none, b)
  | .ok (some (m, rest)) => (.ok (some m), rest)

/-- Each message takes a header off the buffer. -/
theorem length_of_decode {limit : Nat} {b : Bytes} {m : Message} {r : Bytes}
    (h : decode limit b = .ok (some (m, r))) : b.length = m.wireSize + r.length := by
  unfold decode at h
  split at h
  · split at h
    · cases h
    · split at h
      · cases h
      · simp only at h
        split at h
        · cases h
        · split at h
          · cases h
          · rename_i hlt
            cases h
            simp only [wireSize, headerSize, List.length_cons, List.length_take, List.length_drop]
            omega
  · cases h

/-- How many bytes the message at the front of a buffer still lacks. -/
def missing (b : Bytes) : Nat :=
  match b with
  | _ :: _ :: l₁ :: l₂ :: l₃ :: l₄ :: _ :: _ :: rest => Bytes.le32 l₁ l₂ l₃ l₄ - rest.length
  | _ => 0

/-- All complete messages at the front of a buffer, what follows them, and what is wrong with it. -/
def decodeAll (limit : Nat) (b : Bytes) : List Message × Bytes × Option WireError :=
  match _h : decode limit b with
  | .error e => ([], b, some e)
  | .ok none => ([], b, none)
  | .ok (some (m, r)) =>
    let (ms, rest, e) := decodeAll limit r
    (m :: ms, rest, e)
termination_by b.length
decreasing_by have := length_of_decode _h; simp only [wireSize, headerSize] at this; omega

end Message
end FrameFeed
