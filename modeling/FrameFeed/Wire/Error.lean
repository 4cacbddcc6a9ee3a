import FrameFeed.Bytes
/-!
# What can go wrong between two peers

An `IoError` is what a stream reports of itself; a `WireError` is what framing makes of a stream.
-/
namespace FrameFeed

inductive IoKind where
  | interrupted
  | wouldBlock
  | timedOut
  | brokenPipe
  | connectionReset
  | connectionRefused
  | addrInUse
  | alreadyExists
  | permissionDenied
  | notFound
  | unexpectedEnd
  | other
deriving DecidableEq, Repr

/-- A failure of a stream, with the text that describes it. -/
structure IoError where
  kind : IoKind
  text : String
deriving DecidableEq, Repr

/-- A deadline passed; the stream itself is as good as before. -/
def IoError.isTimeout (e : IoError) : Bool := e.kind = .wouldBlock || e.kind = .timedOut

inductive WireError where
  | badMagic
  | unknownKind (b : UInt8)
  | payloadTooLarge (size max : Nat)
  | io (e : IoError)
  | closed
deriving DecidableEq, Repr

namespace WireError

def isTimeout : WireError → Bool
  | io e => e.isTimeout
  | _ => false

def message : WireError → String
  | badMagic => "invalid message magic (expected 0x4657 \"FW\")"
  | unknownKind b => "unknown message kind 0x" ++ Bytes.hex [b]
  | payloadTooLarge size max => s!"payload too large ({size} bytes, max {max})"
  | io e => "message I/O error: " ++ e.text
  | closed => "connection closed"

end WireError
end FrameFeed
