import FrameFeed.Address.Error
import FrameFeed.Frame.Error
import FrameFeed.Json.Fault
/-!
# What can go wrong while a request is served

A failure of the source or of the sink is an answer like any other and the session goes on; anything
else ends the session.
-/
namespace FrameFeed

inductive ServiceError where
  | transport (e : EndpointError)
  | wire (e : WireError)
  | document (e : Json.Fault)
  /-- There is no such request, or nobody who answers it. -/
  | unknownRequest (tag : String)
  | malformed (text : String)
  | source (e : FrameError)
deriving DecidableEq, Repr

namespace ServiceError

def message : ServiceError → String
  | transport e => "transport error: " ++ e.message
  | wire e => "codec error: " ++ e.message
  | document e => "json error: " ++ e.message
  | unknownRequest tag => "unknown request type " ++ Text.quote tag
  | malformed text => "malformed request: " ++ text
  | source e => e.message

def endsSession : ServiceError → Bool
  | source _ => false
  | _ => true

end ServiceError
end FrameFeed
