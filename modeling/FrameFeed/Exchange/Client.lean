import FrameFeed.Address.Settings
import FrameFeed.Exchange.Reply
import FrameFeed.Exchange.Request
import FrameFeed.Feed.Source
import FrameFeed.Frame.Outline
import FrameFeed.Wire.Connection
/-!
# Clients

A client asks one server for metadata and frames and is itself a frame source. It has at most one
request open. A reply that misses its deadline stays owed, and the next call collects it first: a
frame that was owed answers the next request for a frame, any other late reply is dropped. A failure
of the channel other than a deadline writes the client off for good.
-/
namespace FrameFeed

structure Client (σ : Type) where
  endpoint : Endpoint
  channel : σ
  metadata : Option Metadata := none
  /-- The bytes of the current frame. -/
  frame : Option Bytes := none
  /-- The request whose reply is still to come. -/
  owed : Option RequestType := none
  /-- Why the client is written off. -/
  failure : Option String := none

namespace Client

variable {σ : Type}

/-! ## Connecting -/

def connectFault (e : Endpoint) (cause : EndpointError) : FrameError :=
  .faulted ("cannot connect to " ++ e.text ++ ": " ++ cause.message)

/-- A client with these deadlines on a channel that is open. -/
def start (s : ClientSettings) (channel : σ) : Except FrameError (Client σ) :=
  match Connection.setDeadlines s.readTimeout s.writeTimeout with
  | .ok () => .ok { endpoint := s.endpoint, channel }
  | .error e => .error (.faulted ("cannot configure connection: " ++ e.message))

/-! ## One request and its reply -/

/-- Writes the client off. -/
def fail (e : WireError) (c : Client σ) : FrameError × Client σ :=
  let reason := "connection to " ++ c.endpoint.text ++ match e with
    | .closed => " closed"
    | e => " failed: " ++ e.message
  (.faulted reason, { c with failure := some reason })

/-- Reads the next message. -/
def collect [Channel σ] (c : Client σ) : Except FrameError Message × Client σ :=
  match Channel.receive c.channel with
  | (.ok m, channel) => (.ok m, { c with channel })
  | (.error e, channel) =>
    if e.isTimeout then (.error .timeout, { c with channel })
    else
      let (f, c) := { c with channel }.fail e
      (.error f, c)

/-- Writes a request and waits for its reply, which is owed until it is there. -/
def ask [Channel σ] (type : RequestType) (q : Request) (c : Client σ) :
    Except FrameError Reply × Client σ :=
  match Channel.send q.toMessage c.channel with
  | (.error e, channel) =>
    let (f, c) := { c with channel }.fail e
    (.error f, c)
  | (.ok (), channel) =>
    match { c with channel, owed := some type }.collect with
    | (.error e, c) => (.error e, c)
    | (.ok m, c) => (Reply.ofMessage m, { c with owed := none })

/-- Sends a request and waits for its reply, after collecting the one that is owed. -/
def request [Channel σ] (q : Request) (c : Client σ) : Except FrameError Reply × Client σ :=
  match c.failure with
  | some reason => (.error (.faulted reason), c)
  | none =>
    match q.type with
    | .error e => (.error (.invalidParameter e.message), c)
    | .ok type =>
      match c.owed with
      | none => c.ask type q
      | some owed =>
        match c.collect with
        | (.error e, c) => (.error e, c)
        | (.ok late, c) =>
          if owed = .frame ∧ type = .frame then (Reply.ofMessage late, { c with owed := none })
          else { c with owed := none }.ask type q

/-- A reply of the wrong kind. -/
def unexpected (kind : String) (t : RequestType) : FrameError :=
  .faulted ("unexpected " ++ kind ++ " reply to " ++ t.name ++ " request")

/-! ## Metadata and frames -/

/-- Asks for the metadata. One that describes a frame too large to address is refused, and the last
one stays. -/
def refresh [Channel σ] (c : Client σ) : Except FrameError Metadata × Client σ :=
  match c.request .metadata with
  | (.error e, c) => (.error e, c)
  | (.ok (.binary _), c) => (.error (unexpected "binary" .metadata), c)
  | (.ok (.json v), c) =>
    match Metadata.ofJson v with
    | .error e => (.error (.faulted ("unreadable metadata: " ++ e.message)), c)
    | .ok m =>
      match m.checkedSize with
      | none => (.error (.formatUnsupported (m.text ++ " does not fit in memory")), c)
      | some _ => (.ok m, { c with metadata := some m })

/-- The metadata, asked for when it is not known. -/
def known [Channel σ] (c : Client σ) : Except FrameError Metadata × Client σ :=
  match c.metadata with
  | some m => (.ok m, c)
  | none => c.refresh

/-- Fetches the next frame. If its size is not what the metadata says, the format may have changed, so
the metadata is asked for once more. -/
def next [Channel σ] (c : Client σ) : Except FrameError Unit × Client σ :=
  match { c with frame := none }.known with
  | (.error e, c) => (.error e, c)
  | (.ok expected, c) =>
    match c.request .frame with
    | (.error e, c) => (.error e, c)
    | (.ok (.json _), c) => (.error (unexpected "json" .frame), c)
    | (.ok (.binary data), c) =>
      if data.length = expected.size then (.ok (), { c with frame := some data })
      else
        match c.refresh with
        | (.error e, c) => (.error e, c)
        | (.ok m, c) =>
          if data.length = m.size then (.ok (), { c with frame := some data })
          else
            (.error (.faulted
              (s!"frame has {data.length} bytes, metadata " ++ m.text ++ s!" needs {m.size}")), c)

def current (c : Client σ) : Except FrameError View :=
  match c.frame, c.metadata with
  | some data, some m => .ok ⟨m, data⟩
  | _, _ => .error .noFrame

/-! ## Actions and results -/

def execute [Channel σ] (action : String) (c : Client σ) : Except FrameError Unit × Client σ :=
  match c.request (.execute action) with
  | (.error e, c) => (.error e, c)
  | (.ok (.binary _), c) => (.error (unexpected "binary" .execute), c)
  | (.ok (.json _), c) => (.ok (), c)

/-- The failure came as a reply, not from the channel. -/
def isReply : FrameError → Bool
  | .timeout | .faulted _ => false
  | _ => true

/-- Sends a result. What the server makes of it is not the sender's concern. -/
def send [Channel σ] (body : Json.Members) (c : Client σ) : Except FrameError Unit × Client σ :=
  match c.request (.result body) with
  | (.ok _, c) => (.ok (), c)
  | (.error e, c) => if isReply e then (.ok (), c) else (.error e, c)

/-! ## As a source, and in outline -/

instance [Channel σ] : FrameSource (Client σ) where
  metadata c := let (r, c) := c.known; (.returned r, c)
  next c := let (r, c) := c.next; (.returned r, c)
  current c := .returned c.current
  execute a c := let (r, c) := c.execute a; (.returned r, c)

def outlineEndpoint : Endpoint → String
  | .tcp host number => outlineRecord "Tcp" [("host", Text.quote host), ("port", toString number)]
  | .unix path => "Unix(" ++ Text.quote path ++ ")"

def outline (c : Client σ) : String :=
  outlineRecord "Client"
    [("endpoint", outlineEndpoint c.endpoint),
      ("metadata", outlineOption (c.metadata.map Metadata.outline)),
      ("has_frame", toString c.frame.isSome),
      ("owed", outlineOption (c.owed.map fun t => outlineName t.name)),
      ("failure", outlineOption (c.failure.map Text.quote))]

end Client
end FrameFeed
