import FrameFeed.Frame.Metadata
/-!
# Why there is no frame

One list of causes for producing and for fetching a frame. Each has a tag, by which it crosses the
wire together with its detail; `ofTag` rebuilds it on the other side. The one cause that never
crosses is a buffer too small for a frame: a peer that reports it has failed.
-/
namespace FrameFeed

inductive FrameError where
  | timeout
  | overflow
  | endOfStream
  | formatUnsupported (detail : String)
  | invalidParameter (detail : String)
  | unsupportedAction (action : String)
  | notImplemented (detail : String)
  | noFrame
  | insufficientCapacity (metadata : Metadata) (capacity : Nat)
  | faulted (detail : String)
  | unknown (detail : String)
deriving DecidableEq, Repr

namespace FrameError

/-- Asking for the next frame again makes sense. -/
def isRecoverable : FrameError → Bool
  | timeout | overflow => true
  | _ => false

/-- The stream is over for good. -/
def isTerminal : FrameError → Bool
  | endOfStream | faulted _ | unknown _ => true
  | _ => false

def tag : FrameError → String
  | timeout => "timeout"
  | overflow => "overflow"
  | endOfStream => "endOfStream"
  | formatUnsupported _ => "formatUnsupported"
  | invalidParameter _ => "invalidParameter"
  | unsupportedAction _ => "unsupportedAction"
  | notImplemented _ => "notImplemented"
  | noFrame => "noFrame"
  | insufficientCapacity _ _ => "insufficientCapacity"
  | faulted _ => "faulted"
  | unknown _ => "unknown"

def detail : FrameError → Option String
  | formatUnsupported s | invalidParameter s | unsupportedAction s | notImplemented s | faulted s
  | unknown s => some s
  | _ => none

def message : FrameError → String
  | timeout => "timed out waiting for a frame"
  | overflow => "producer overflow, frames may have been dropped"
  | endOfStream => "end of stream"
  | formatUnsupported s => "format unsupported: " ++ s
  | invalidParameter s => "invalid parameter: " ++ s
  | unsupportedAction s => "unsupported action: " ++ Text.quote s
  | notImplemented s => "not implemented: " ++ s
  | noFrame => "no frame available (call next_frame first)"
  | insufficientCapacity m capacity =>
    s!"insufficient capacity: frame needs {m.size} bytes, buffer holds {capacity}"
  | faulted s => "faulted: " ++ s
  | unknown s => "unknown error: " ++ s

/-- The cause with this tag. A tag that is not known, from a newer peer, is kept in the detail. -/
def ofTag (tag : String) (detail : Option String) : FrameError :=
  let text := detail.getD ""
  let after (s : String) := match detail with
    | some d => s ++ ": " ++ d
    | none => s
  match tag with
  | "timeout" => timeout
  | "overflow" => overflow
  | "endOfStream" => endOfStream
  | "formatUnsupported" => formatUnsupported text
  | "invalidParameter" => invalidParameter text
  | "unsupportedAction" => unsupportedAction text
  | "notImplemented" => notImplemented text
  | "noFrame" => noFrame
  | "faulted" => faulted text
  | "insufficientCapacity" => faulted (after "peer reported insufficient capacity")
  | other => unknown (after other)

/-- What every user of a source hears after a call to it never returned. -/
def poisoned : FrameError := faulted "frame source lock poisoned"

end FrameError
end FrameFeed
