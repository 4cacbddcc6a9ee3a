/-!
# The space of a buffer

How much a buffer that is filled at its end and emptied at its front has room for. It grows when it
has to, and then at least to twice its size; what was emptied at the front is used again once that
is as much as is still unread.
-/
namespace FrameFeed

/-- The size of a buffer and how much of it, at the front, is used up. -/
structure Space where
  size : Nat
  before : Nat := 0
deriving DecidableEq, Repr

namespace Space

/-- What fits behind the unread bytes. -/
def room (unread : Nat) (s : Space) : Nat := s.size - s.before - unread

/-- Makes room for this many more bytes behind the unread ones. -/
def grow (unread more : Nat) (s : Space) : Space :=
  if s.before + unread + more ≤ s.size then s
  else if unread + more ≤ s.size ∧ unread ≤ s.before then { s with before := 0 }
  else { s with size := max (2 * s.size) (s.before + unread + more) }

/-- The first of the unread bytes are used up. -/
def advance (n : Nat) (s : Space) : Space := { s with before := s.before + n }

end Space
end FrameFeed
