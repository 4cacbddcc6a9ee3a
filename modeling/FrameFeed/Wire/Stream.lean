import FrameFeed.Wire.Error
/-!
# Streams of bytes

A `Stream` is one end of a connection as its owner meets it: what each read will bring, how much each
write will take, and what each flush will say, with all that was written so far. Reads beyond the
last arrival give `ending`, writes beyond the last acceptance are refused with `refusal` or taken
whole.
-/
namespace FrameFeed

/-- What a read brings. No bytes mean the end of the stream. -/
inductive Arrival where
  | data (b : Bytes)
  | failed (e : IoError)
deriving DecidableEq, Repr

/-- What a write does. -/
inductive Acceptance where
  | takes (n : Nat)
  | failed (e : IoError)
deriving DecidableEq, Repr

structure Stream where
  arrivals : List Arrival := []
  /-- The failure of a read beyond the arrivals; nothing for the end of the stream. -/
  ending : Option IoError := none
  acceptances : List Acceptance := []
  /-- The failure of a write beyond the acceptances; nothing if it is taken whole. -/
  refusal : Option IoError := none
  /-- What each flush says; beyond these every flush succeeds. -/
  flushes : List (Option IoError) := []
  sent : Bytes := []
  flushed : Nat := 0
deriving Repr

namespace Stream

/-- A measure of what is still to be read. -/
def weight : List Arrival → Nat
  | [] => 0
  | .data b :: as => b.length + 1 + weight as
  | .failed _ :: as => 1 + weight as

/-- Writes all of `b`, in as many writes as it takes. -/
def write (b : Bytes) (s : Stream) : Except WireError Unit × Stream :=
  let (outcome, taken, left) := go b [] s.acceptances
  (outcome, { s with acceptances := left, sent := s.sent ++ taken })
where
  /-- The outcome, the bytes taken and the acceptances left; `taken` are those taken so far. -/
  go (b taken : Bytes) (as : List Acceptance) : Except WireError Unit × Bytes × List Acceptance :=
    match b, as with
    | [], as => (.ok (), taken, as)
    | c :: b, [] =>
      match s.refusal with
      | none => (.ok (), taken ++ c :: b, [])
      | some e => (.error (.io e), taken, [])
    | _ :: _, .takes 0 :: as => (.error .closed, taken, as)
    | b, .takes n :: as => go (b.drop n) (taken ++ b.take n) as
    | b, .failed e :: as =>
      if e.kind = .interrupted then go b taken as else (.error (.io e), taken, as)

/-- Flushes, again when interrupted. -/
def flush (s : Stream) : Except WireError Unit × Stream :=
  let (outcome, left, done) := go s.flushes
  (outcome, { s with flushes := left, flushed := s.flushed + done })
where
  go : List (Option IoError) → Except WireError Unit × List (Option IoError) × Nat
    | [] => (.ok (), [], 1)
    | none :: fs => (.ok (), fs, 1)
    | some e :: fs => if e.kind = .interrupted then go fs else (.error (.io e), fs, 0)

end Stream
end FrameFeed
