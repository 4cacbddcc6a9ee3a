import FrameFeed.Frame.Error
import FrameFeed.Json.Basic
/-! # Sinks: where results go -/
namespace FrameFeed

/-- What takes results, or refuses one with an error. -/
class ResultsSink (κ : Type) where
  send : Json.Members → κ → Except FrameError Unit × κ

/-- Keeps the results it accepts. The first sends go by the verdicts, later ones are accepted. -/
structure Sink where
  verdicts : List (Option FrameError) := []
  received : List Json.Members := []
deriving DecidableEq, Repr

namespace Sink

def send (body : Json.Members) (s : Sink) : Except FrameError Unit × Sink :=
  match s.verdicts with
  | some e :: vs => (.error e, { s with verdicts := vs })
  | none :: vs => (.ok (), ⟨vs, s.received ++ [body]⟩)
  | [] => (.ok (), ⟨[], s.received ++ [body]⟩)

instance : ResultsSink Sink := ⟨send⟩

end Sink
end FrameFeed
