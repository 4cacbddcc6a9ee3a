import FrameFeed.Feed.Source
/-!
# The hand-off slot

A producer that pushes frames and a consumer that pulls them meet at a slot that holds one frame. The
consumer `start`s a request, which issues a ticket, and waits until a frame is there, the stream is
over or its deadline passes. A producer claims the ticket by `poll` and answers it by `publish`.

A frame that answers the request withdrawn last is late but kept for the next request; one that
answers an older request is discarded.

`Slot.step` does one step of either side; every run of a consumer and any number of producers is a
list of steps (`Slot.run`).
-/
namespace FrameFeed

structure PublishedFrame where
  metadata : Metadata
  data : Bytes
  /-- The ticket the frame answers. -/
  ticket : Nat
deriving DecidableEq, Repr

/-- What can be seen of a slot. -/
inductive SlotState where
  | waiting
  | ready
  | endOfStream
  | faulted
deriving DecidableEq, Repr

def SlotState.name : SlotState → String
  | waiting => "waiting"
  | ready => "ready"
  | endOfStream => "end_of_stream"
  | faulted => "faulted"

structure SlotStats where
  requests : Nat := 0
  delivered : Nat := 0
  /-- Delivered frames whose request had been withdrawn. -/
  late : Nat := 0
  discarded : Nat := 0
  timeouts : Nat := 0
  overflows : Nat := 0
deriving DecidableEq, Repr

structure Slot where
  state : SlotState := .waiting
  nextTicket : Nat := 1
  /-- The ticket the consumer waits on. -/
  requested : Option Nat := none
  /-- The ticket the consumer gave up last. -/
  withdrawn : Option Nat := none
  /-- The ticket handed to a producer last. -/
  claimed : Option Nat := none
  frame : Option PublishedFrame := none
  terminal : Option FrameError := none
  overflowPending : Bool := false
  /-- The consumer is gone. -/
  closed : Bool := false
  stats : SlotStats := {}
deriving DecidableEq, Repr

/-- What becomes of a published frame. -/
inductive Publish where
  | delivered
  | discarded
  | closed
deriving DecidableEq, Repr

def Publish.name : Publish → String
  | delivered => "delivered"
  | discarded => "discarded"
  | closed => "closed"

/-- What a producer that looks for a request finds. -/
inductive Poll where
  | ready (ticket : Nat)
  | timedOut
  | closed
deriving DecidableEq, Repr

namespace Slot

def terminalState : FrameError → SlotState
  | .endOfStream => .endOfStream
  | _ => .faulted

def isClosed (s : Slot) : Bool := s.closed || s.terminal.isSome

/-! ## The consumer -/

/-- A frame that is there, or the end of the stream. -/
def take? (s : Slot) : Option (Except FrameError PublishedFrame) × Slot :=
  match s.frame, s.terminal with
  | some f, _ => (some (.ok f), { s with frame := none, state := .ready })
  | none, some e => (some (.error e), { s with requested := none, state := terminalState e })
  | none, none => (none, s)

/-- Asks for a frame. Nothing for an answer means that a ticket was issued and the consumer waits. -/
def start (s : Slot) : Option (Except FrameError PublishedFrame) × Slot :=
  match s.frame, s.terminal with
  | some f, _ => (some (.ok f), { s with frame := none, state := .ready })
  | none, some e => (some (.error e), { s with state := terminalState e })
  | none, none =>
    if s.overflowPending then (some (.error .overflow), { s with overflowPending := false })
    else
      (none, { s with
        nextTicket := s.nextTicket + 1
        requested := some s.nextTicket
        state := .waiting
        stats := { s.stats with requests := s.stats.requests + 1 } })

/-- What a waiting consumer gets when its deadline passes. -/
def expire (s : Slot) : Except FrameError PublishedFrame × Slot :=
  match s.take? with
  | (some r, s) => (r, s)
  | (none, s) =>
    (.error .timeout, { s with
      withdrawn := s.requested
      requested := none
      stats := { s.stats with timeouts := s.stats.timeouts + 1 } })

/-- The consumer goes away. -/
def drop (s : Slot) : Slot := { s with closed := true, requested := none }

/-! ## Producers -/

def poll (s : Slot) : Poll × Slot :=
  if s.isClosed then (.closed, s)
  else
    match s.requested with
    | some t => if s.claimed = some t then (.timedOut, s) else (.ready t, { s with claimed := some t })
    | none => (.timedOut, s)

def publish (ticket : Nat) (metadata : Metadata) (data : Bytes) (s : Slot) : Publish × Slot :=
  if s.isClosed then (.closed, s)
  else
    let current := s.requested = some ticket
    let late := s.withdrawn = some ticket
    if ¬(current ∨ late) ∨ s.frame.isSome then
      (.discarded, { s with stats := { s.stats with discarded := s.stats.discarded + 1 } })
    else
      (.delivered, { s with
        requested := none
        withdrawn := none
        frame := some ⟨metadata, data, ticket⟩
        state := .ready
        stats := { s.stats with
          late := if late then s.stats.late + 1 else s.stats.late
          delivered := s.stats.delivered + 1 } })

/-- Frames were lost on their way here: a later request will fail for it, once. -/
def reportOverflow (s : Slot) : Slot :=
  if s.terminal.isSome then s
  else
    { s with
      overflowPending := true
      stats := { s.stats with overflows := s.stats.overflows + 1 } }

/-- The stream is over, for the first reason given. A frame that is there is still handed out. -/
def terminate (e : FrameError) (s : Slot) : Slot :=
  if s.terminal.isSome then s
  else
    { s with
      terminal := some e
      state := if s.frame.isSome then s.state else terminalState e }

/-! ## Runs -/

/-- What a producer does. -/
inductive Act where
  | poll
  /-- Looks whether the slot is closed. -/
  | look
  | publish (ticket : Nat) (metadata : Metadata) (data : Bytes)
  | overflow
  | endOfStream
  | fault (reason : String)
deriving DecidableEq, Repr

inductive ActResult where
  | polled (p : Poll)
  | looked (closed : Bool)
  | published (p : Publish)
  | done
deriving DecidableEq, Repr

def act (a : Act) (s : Slot) : ActResult × Slot :=
  match a with
  | .poll => (.polled s.poll.1, s.poll.2)
  | .look => (.looked s.isClosed, s)
  | .publish t m d => (.published (s.publish t m d).1, (s.publish t m d).2)
  | .overflow => (.done, s.reportOverflow)
  | .endOfStream => (.done, s.terminate .endOfStream)
  | .fault reason => (.done, s.terminate (.faulted reason))

/-- Where the consumer is. -/
inductive Consumer where
  | idle
  | waiting
  | gone
deriving DecidableEq, Repr

/-- One step under the lock of the slot. -/
inductive Step where
  | start
  /-- A waiting consumer looks again. -/
  | wake
  | expire
  | drop
  | act (a : Act)
deriving DecidableEq, Repr

/-- What a step shows. -/
inductive Event where
  /-- The consumer issued a ticket and waits. -/
  | issued (ticket : Nat)
  | pulled (r : Except FrameError PublishedFrame)
  | acted (a : Act) (r : ActResult)
  | dropped
  /-- A step that the consumer cannot take now, or that finds nothing. -/
  | idle
deriving Repr

/-- One step of the consumer or of a producer. The consumer has one call open at a time. -/
def step (st : Step) (c : Consumer) (s : Slot) : Event × Consumer × Slot :=
  match st, c with
  | .start, .idle =>
    match s.start with
    | (some r, s') => (.pulled r, .idle, s')
    | (none, s') => (.issued s.nextTicket, .waiting, s')
  | .wake, .waiting =>
    match s.take? with
    | (some r, s') => (.pulled r, .idle, s')
    | (none, s') => (.idle, .waiting, s')
  | .expire, .waiting => (.pulled s.expire.1, .idle, s.expire.2)
  | .drop, .idle => (.dropped, .gone, s.drop)
  | .act a, c => (.acted a (s.act a).1, c, (s.act a).2)
  | _, c => (.idle, c, s)

/-- The events of a run, and where it leads. -/
def run : List Step → Consumer → Slot → List Event × Consumer × Slot
  | [], c, s => ([], c, s)
  | st :: sts, c, s =>
    let (e, c, s) := step st c s
    let (es, c, s) := run sts c s
    (e :: es, c, s)

/-! ## One whole call -/

/-- What producers do while no call is open. -/
def acts : List Act → Slot → List ActResult × Slot
  | [], s => ([], s)
  | a :: as, s =>
    let (r, s) := s.act a
    let (rs, s) := acts as s
    (r :: rs, s)

/-- What producers do while the consumer waits. Once there is an answer the call returns, and the
rest happens after it; if there is none in the end, the deadline has passed. -/
def await : List Act → Slot → List ActResult × Except FrameError PublishedFrame × Slot
  | [], s => ([], s.expire)
  | a :: as, s =>
    let (r, s) := s.act a
    match s.take? with
    | (some answer, s) =>
      let (rs, s) := acts as s
      (r :: rs, answer, s)
    | (none, s) =>
      let (rs, answer, s) := await as s
      (r :: rs, answer, s)

/-- One call of the consumer, given what producers do during it when it issues a ticket, and after it
when it does not. -/
def pull (during : Option Nat → List Act) (s : Slot) :
    List ActResult × Except FrameError PublishedFrame × Slot :=
  match s.start with
  | (some answer, s') =>
    let (rs, s') := acts (during none) s'
    (rs, answer, s')
  | (none, s') => await (during (some s.nextTicket)) s'

end Slot
end FrameFeed
