import FrameFeed.Frame.Error
import FrameFeed.Json.Decoder
import FrameFeed.Json.Printer
import FrameFeed.Wire.Message
/-!
# Replies

A reply is a JSON value or bytes. An object with a member `error` is a failure: a tag and a message,
from which the other side rebuilds the cause. The tag `protocol` announces that the server is about
to end the session, so it comes back as a fault.
-/
namespace FrameFeed

/-! ## Failures -/

structure ErrorReply where
  tag : String
  text : String := ""
deriving DecidableEq, Repr, Inhabited

namespace ErrorReply

def protocolTag : String := "protocol"

def protocol (text : String) : ErrorReply := ⟨protocolTag, text⟩

/-- What a peer is told of a cause: its detail or, where there is none, its wording. -/
def ofFrameError (e : FrameError) : ErrorReply := ⟨e.tag, e.detail.getD e.message⟩

def toFrameError (r : ErrorReply) : FrameError :=
  if r.tag = protocolTag then .faulted ("server closed session: " ++ r.text)
  else .ofTag r.tag (if r.text.isEmpty then none else some r.text)

/-- The fields in the order in which they are written. -/
def fields (r : ErrorReply) : Json.Members := [("error", .str r.tag), ("message", .str r.text)]

def print (r : ErrorReply) : Bytes := Json.printRecord r.fields

def toJson (r : ErrorReply) : Json := .obj (Json.ofMembers r.fields)

open Json.Decoder in
/-- The message need not be given. -/
def decoder : Json.Decoder ErrorReply :=
  record "struct ErrorReply"
    [field "error" true Json.Decoder.text fun r v => { r with tag := v },
      field "message" false Json.Decoder.text fun r v => { r with text := v }]
    { tag := "" }

def parse (s : Bytes) : Except Json.Fault ErrorReply := decoder.parse s

end ErrorReply

/-! ## Replies -/

inductive Reply where
  | json (v : Json)
  | binary (data : Bytes)
deriving DecidableEq, Repr

namespace Reply

/-- A result was taken, or an action done. -/
def ack : Reply := json (.texts [("status", "success")])

def error (r : ErrorReply) : Reply := json r.toJson

def toMessage : Reply → Message
  | json v => ⟨.json, v.print⟩
  | binary data => ⟨.binary, data⟩

/-- What a client makes of a message. -/
def ofMessage (m : Message) : Except FrameError Reply :=
  match m.kind with
  | .binary => .ok (binary m.payload)
  | .json =>
    match Json.parse m.payload with
    | .error e => .error (.faulted ("unreadable reply: " ++ e.message))
    | .ok v =>
      match v.get? "error" with
      | none => .ok (json v)
      | some _ =>
        match ErrorReply.decoder.view v with
        | .ok r => .error r.toFrameError
        | .error e => .error (.faulted ("unreadable error reply: " ++ e.message))

end Reply
end FrameFeed
