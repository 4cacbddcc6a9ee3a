import FrameFeed.Address.SocketFile
import FrameFeed.Command.Duration
import FrameFeed.Command.Invocation
import FrameFeed.Exchange.Server
import FrameFeed.Exchange.Service
import FrameFeed.Feed.Producer
/-!
# Serving

What `serve` serves: the frames of a pattern, or those of a producer that feeds a slot. Results go to
a sink and are printed as they come.
-/
namespace FrameFeed.Serve

/-- Either kind of source that `serve` offers. -/
abbrev Source := PatternSource ⊕ FedSource

def emptyFrames (m : Metadata) : Failure :=
  ⟨Failure.usage, "frames described as " ++ m.text ++ " would be empty"⟩

def source (o : ServeOptions) : Except Failure Source :=
  if !o.handoff then
    .ok (.inl { metadata := o.metadata, pattern := o.pattern, limit := o.frames })
  else
    match o.pipeline with
    | none => .error ⟨Failure.usage, "--handoff needs --pipeline or FRAMEWIRE_PIPELINE"⟩
    | some p =>
      match Producer.ofDescription p o.metadata with
      | .error e => .error (.ofFrame "bad pipeline" e)
      | .ok producer => .ok (.inr ⟨{ metadata := o.metadata }, { producer }⟩)

def settings (o : ServeOptions) : Except Failure ServerSettings := do
  let idleTimeout ← match o.idleTimeout with
    | none => pure none
    | some t => some <$> Duration.parse t
  return { address := o.address, portNumber := o.portNumber, idleTimeout }

/-- The server, before it listens. -/
def server (o : ServeOptions) : Except Failure (Server (Service Source)) := do
  if o.metadata.size = 0 then throw (emptyFrames o.metadata)
  let source ← source o
  let settings ← settings o
  return { router := Router.forSource.withSink, service := { source, sink := {} }, settings }

/-- Binds the endpoint of a server to its socket file; an address of the network is left to the
network. -/
def bind (e : Endpoint) (d : Directory) : Except Failure Unit × Directory :=
  match e with
  | .tcp _ _ => (.ok (), d)
  | .unix path =>
    match d.bind path SocketFile.defaultMode with
    | (.ok _, d) => (.ok (), d)
    | (.error e, d) => (.error (.ofEndpoint "bind failed" e), d)

/-- What a server says when it listens. -/
def announcement (e : Endpoint) : String := "serving on " ++ e.text ++ "\n"

/-- What a server has printed. -/
def printed {σ : Type} (format : Format) (s : Server (Service σ)) : String :=
  String.join (s.service.sink.received.map fun body => Output.result body format)

end FrameFeed.Serve
