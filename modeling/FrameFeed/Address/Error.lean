import FrameFeed.Text.Quoted
import FrameFeed.Wire.Error
/-! # What can go wrong before two peers are connected -/
namespace FrameFeed

inductive EndpointError where
  | invalid (text : String)
  | bind (endpoint : String) (cause : IoError)
  | connect (endpoint : String) (cause : IoError)
  | accept (cause : IoError)
  | io (cause : IoError)
  | pathTooLong (path : String) (length max : Nat)
  | unsupported (text : String)
deriving DecidableEq, Repr

namespace EndpointError

def message : EndpointError → String
  | invalid s => "invalid endpoint " ++ Text.quote s ++ " (expected host:port or unix:<path>)"
  | bind endpoint e => "failed to bind to " ++ endpoint ++ ": " ++ e.text
  | connect endpoint e => "failed to connect to " ++ endpoint ++ ": " ++ e.text
  | accept e => "failed to accept connection: " ++ e.text
  | io e => "transport I/O error: " ++ e.text
  | pathTooLong path length max => s!"socket path too long ({length} bytes, max {max}): " ++ path
  | unsupported s => "unsupported endpoint on this platform: " ++ s

/-- The failure of the stream behind the error, if there is one. -/
def cause? : EndpointError → Option IoError
  | bind _ e | connect _ e | accept e | io e => some e
  | _ => none

end EndpointError
end FrameFeed
