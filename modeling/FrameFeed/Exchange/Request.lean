import FrameFeed.Exchange.RequestType
import FrameFeed.Json.Position
import FrameFeed.Wire.Message
/-!
# Requests

A request is a tag with a body or without one. The tag stays a text, so that a server can tell a tag
it does not know from a message it cannot read. On the wire a request is a JSON message.
-/
namespace FrameFeed

structure Request where
  tag : String
  body : Option Json.Members := none
deriving DecidableEq, Repr, Inhabited

namespace Request

def metadata : Request := ⟨RequestType.metadata.name, none⟩

def frame : Request := ⟨RequestType.frame.name, none⟩

def result (body : Json.Members) : Request := ⟨RequestType.result.name, some body⟩

def execute (action : String) : Request :=
  ⟨RequestType.execute.name, some [("action", .str action)]⟩

def type (r : Request) : Except ServiceError RequestType := RequestType.ofName? r.tag

/-! ## On the wire -/

/-- The fields in the order in which they are written; a body that is not there is left out. -/
def fields (r : Request) : Json.Members :=
  ("request", .str r.tag) :: match r.body with
    | some body => [("body", .obj body)]
    | none => []

def toMessage (r : Request) : Message := ⟨.json, Json.printRecord r.fields⟩

open Json.Decoder in
def decoder : Json.Decoder Request :=
  record "struct Request"
    [field "request" true Json.Decoder.text fun r v => { r with tag := v },
      field "body" false (optional object) fun r v => { r with body := v }]
    { tag := "" }

def ofMessage (m : Message) : Except ServiceError Request :=
  match m.kind with
  | .binary => .error (.malformed "requests must be JSON messages")
  | .json =>
    match decoder.parse m.payload with
    | .ok r => .ok r
    | .error e => .error (.malformed (e.message ++ (decoder.position m.payload e).text))

end Request

/-! ## What a request to execute asks for -/

structure ActionBody where
  action : String
deriving DecidableEq, Repr, Inhabited

namespace ActionBody

open Json.Decoder in
def decoder : Json.Decoder ActionBody :=
  record "struct ExecuteBody"
    [field "action" true Json.Decoder.text fun b v => { b with action := v }] ⟨""⟩

def ofMembers (ms : Json.Members) : Except Json.Fault ActionBody := decoder.view (.obj ms)

end ActionBody
end FrameFeed
