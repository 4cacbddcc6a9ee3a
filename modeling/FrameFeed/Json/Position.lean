import FrameFeed.Json.Decoder
/-!
# Where a document goes wrong

A document goes wrong where its shortest beginning with the same fault ends; one that ends too soon
goes wrong at its end. `onset` finds such an end by halving.
-/
namespace FrameFeed.Json

/-- A place in a document: its line from one on, and how many bytes of the line lie before it. -/
structure Position where
  line : Nat
  column : Nat
deriving DecidableEq, Repr

/-- The place behind these bytes. -/
def Position.after (b : Bytes) : Position :=
  ⟨1 + b.count 10, (b.reverse.takeWhile (· ≠ 10)).length⟩

def Position.text (p : Position) : String := s!" at line {p.line} column {p.column}"

/-- The number from which on `p` holds, among those from `low` to `high`. -/
def onset (p : Nat → Bool) (low high : Nat) : Nat :=
  if high ≤ low then high
  else
    let middle := (low + high) / 2
    if p middle then onset p low middle else onset p (middle + 1) high
termination_by high - low

/-- The document ends too soon. -/
def Fault.isEnd : Fault → Bool
  | .endInList | .endInObject | .endInText | .endInValue => true
  | _ => false

/-- The bracket that opens a list or an object of the wrong type is not read any more. -/
def Fault.unread : Fault → Nat
  | .wrongType .list _ | .wrongType .map _ => 1
  | _ => 0

/-- Where a document with this fault goes wrong. -/
def Decoder.position {α : Type} (d : Decoder α) (s : Bytes) (e : Fault) : Position :=
  let goesWrong (n : Nat) : Bool :=
    match d.parse (s.take n) with
    | .error e' => e' = e
    | .ok _ => false
  .after (s.take (if e.isEnd then s.length else onset goesWrong 0 s.length - e.unread))

end FrameFeed.Json
