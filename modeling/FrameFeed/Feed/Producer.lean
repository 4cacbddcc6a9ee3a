import FrameFeed.Decimal.Reading
import FrameFeed.Feed.Handoff
import FrameFeed.Feed.Pattern
/-!
# Producers of patterns

A producer answers every request with the next frame of its pattern and ends the stream once it has
delivered as many as it was told. It is described by the name of the pattern and options, such as
`ramp fps=30 frames=100`.

A rate says only how long a producer sleeps before it answers a request. When the steps of a producer
come is left to those who run it beside its source, so a rate makes no difference to what it does,
but for one: a producer dies that works out a time which the clock does not reach.
-/
namespace FrameFeed

structure Producer where
  pattern : Pattern
  metadata : Metadata
  /-- Frames per second; without a rate every request is answered at once. -/
  fps : Option Binary64 := none
  /-- The stream ends after this many delivered frames. -/
  frames : Option Nat := none
deriving DecidableEq, Repr

namespace Producer

/-- The whole seconds from one frame to the next, if a double can tell them. -/
def period? (rate : Binary64) : Option Nat :=
  (Binary64.one.div rate).map fun t => t.fraction.1 / t.fraction.2

/-- The time between two frames is not too long for a duration, whose seconds have sixty-four bits. -/
def hasPeriod (p : Producer) : Bool := p.fps.all fun rate => (period? rate).any (· < 0x10000000000000000)

/-- After a frame at this time the next one is due before the clock ends, whose seconds have sixty-three bits. -/
def keepsTime (clock : Nat) (p : Producer) : Bool :=
  p.fps.all fun rate => (period? rate).any (clock + · < 0x8000000000000000)

/-- The producer with an option. -/
def withOption (p : Producer) (word : String) : Except FrameError Producer :=
  let bad := .error (.invalidParameter ("bad pipeline option " ++ Text.quote word))
  match Text.splitFirst? '=' word.toList with
  | none => bad
  | some (key, value) =>
    match String.ofList key with
    | "fps" =>
      match Decimal.positive? (.ofList value) with
      | some rate => .ok { p with fps := some rate }
      | none => bad
    | "frames" =>
      match Decimal.unsigned? 0xffffffffffffffff (.ofList value) with
      | some n => .ok { p with frames := some n }
      | none => bad
    | _ => bad

/-- The producer that a description stands for. -/
def ofDescription (description : String) (metadata : Metadata) : Except FrameError Producer :=
  match Text.words description with
  | [] => .error (.invalidParameter "empty pipeline description")
  | first :: options => do
    let pattern ← Pattern.parse first
    options.foldlM withOption { pattern, metadata }

end Producer

/-- A producer at work. -/
structure Production where
  producer : Producer
  /-- The number of the next frame. -/
  sequence : Nat := 0
  delivered : Nat := 0
  stopped : Bool := false
deriving DecidableEq, Repr

namespace Production

/-- Looks for a request and answers it, at this time in seconds. A producer dies before it looks for one if no
duration holds its period, and before it answers if the clock does not reach the next frame. -/
def turn (p : Production) (s : Slot) (clock : Nat := 0) : Production × Slot :=
  if p.stopped then (p, s)
  else if !p.producer.hasPeriod then ({ p with stopped := true }, s)
  else
    match s.poll with
    | (.closed, s) => ({ p with stopped := true }, s)
    | (.timedOut, s) => (p, s)
    | (.ready ticket, s) =>
      if !p.producer.keepsTime clock then ({ p with stopped := true }, s) else
      let data := p.producer.pattern.render p.sequence p.producer.metadata
      let (outcome, s) := s.publish ticket p.producer.metadata data
      let p := { p with
        sequence := p.sequence + 1
        delivered := if outcome = Publish.delivered then p.delivered + 1 else p.delivered }
      if outcome = Publish.closed then ({ p with stopped := true }, s)
      else if p.producer.frames.any (· ≤ p.delivered) then
        ({ p with stopped := true }, s.terminate .endOfStream)
      else (p, s)

end Production

/-- A source and the producer that feeds it. -/
structure FedSource where
  source : HandoffSource
  production : Production

namespace FedSource

/-- Pulls the next frame; the producer answers while the source waits, at this time in seconds. -/
def next (f : FedSource) (clock : Nat := 0) : Except FrameError Unit × FedSource :=
  let done (answer : Except FrameError PublishedFrame) (p : Production) (slot : Slot) :
      Except FrameError Unit × FedSource :=
    let (r, h) := HandoffSource.settle answer { f.source with slot }
    (r, ⟨h, p⟩)
  match f.source.slot.start with
  | (some answer, slot) => done answer f.production slot
  | (none, slot) =>
    let (p, slot) := f.production.turn slot clock
    let (answer, slot) := slot.expire
    done answer p slot

instance : FrameSource FedSource where
  metadata f := (.ok f.source.metadata, f)
  next f := (.returned f.next.1, f.next.2)
  current f := .returned f.source.current
  execute a f := (.returned (f.source.actions a), f)

end FedSource
end FrameFeed
