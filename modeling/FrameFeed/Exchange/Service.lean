import FrameFeed.Exchange.Router
import FrameFeed.Feed.Sink
/-!
# Serving a source

The router of a source answers requests for metadata, frames and actions from the source, and hands
results to a sink.

A handler that crashes in a call to the source leaves the source poisoned: nobody calls it again, and
whoever asks for it is told so (`Service.call_poisoned`). The sink is not affected.
-/
namespace FrameFeed

/-- A source and a sink that sessions share. -/
structure Service (σ : Type) (κ : Type := Sink) where
  source : σ
  /-- A call to the source crashed. -/
  poisoned : Bool := false
  sink : κ

namespace Service

variable {σ κ α : Type}

/-- Calls the source, unless it is poisoned. -/
def call (f : σ → Call α × σ) (s : Service σ κ) : Call α × Service σ κ :=
  if s.poisoned then (.error .poisoned, s)
  else
    match f s.source with
    | (.returned r, source) => (.returned r, { s with source })
    | (.crashed, source) => (.crashed, { s with source, poisoned := true })

theorem call_poisoned (f : σ → Call α × σ) (s : Service σ κ) (h : s.poisoned = true) :
    s.call f = (.error .poisoned, s) := by
  simp [call, h]

/-- The next frame of a source. -/
def advance [FrameSource σ] (s : σ) : Call Bytes × σ :=
  match FrameSource.next s with
  | (.returned (.ok ()), s) => (FrameSource.bytes s, s)
  | (.returned (.error e), s) => (.error e, s)
  | (.crashed, s) => (.crashed, s)

/-- What a request that needs a body says when it has none. -/
def bodyless (t : RequestType) : ServiceError := .malformed (t.name ++ " request without a body")

def answerMetadata [FrameSource σ] : Handler (Service σ κ) := fun _ s =>
  let (r, s) := s.call FrameSource.metadata
  (r.answer (.json ·.toJson), s)

def answerFrame [FrameSource σ] : Handler (Service σ κ) := fun _ s =>
  let (r, s) := s.call advance
  (r.answer .binary, s)

def answerExecute [FrameSource σ] : Handler (Service σ κ) := fun body s =>
  match body with
  | none => (.failed (bodyless .execute), s)
  | some ms =>
    match ActionBody.ofMembers ms with
    | .error e => (.failed (.malformed (RequestType.execute.name ++ " body: " ++ e.message)), s)
    | .ok b =>
      let (r, s) := s.call (FrameSource.execute b.action)
      (r.answer fun _ => .ack, s)

/-- Nobody takes results. -/
def refuseResult : Handler (Service σ κ) := fun _ s =>
  (.failed (.source (.notImplemented "no results sink attached")), s)

def answerResult [ResultsSink κ] : Handler (Service σ κ) := fun body s =>
  match body with
  | none => (.failed (bodyless .result), s)
  | some ms =>
    match ResultsSink.send ms s.sink with
    | (.ok (), sink) => (.reply .ack, { s with sink })
    | (.error e, sink) => (.failed (.source e), { s with sink })

end Service

namespace Router

variable {σ κ : Type}

/-- Serves a source; results are refused. -/
def forSource [FrameSource σ] : Router (Service σ κ) :=
  ({} : Router (Service σ κ))
    |>.route RequestType.metadata.name Service.answerMetadata
    |>.route RequestType.frame.name Service.answerFrame
    |>.route RequestType.execute.name Service.answerExecute
    |>.route RequestType.result.name Service.refuseResult

/-- Hands results to the sink. -/
def withSink [ResultsSink κ] (r : Router (Service σ κ)) : Router (Service σ κ) :=
  r.route RequestType.result.name Service.answerResult

end Router
end FrameFeed
