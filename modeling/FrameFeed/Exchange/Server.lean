import FrameFeed.Address.Settings
import FrameFeed.Exchange.Session
/-!
# Servers

A server numbers the connections it accepts. An accepted connection waits until it is registered;
then it stands in the table of live sessions and is served. A session that has ended is forgotten: it
leaves the table, and only then is its stream closed for the peer. A session that crashed stays in the
table. Stopping the server shuts down every stream in the table; from then on nothing is registered any
more.

`Server.step` is one step that the server takes under its lock, or one thing that happens to a
session.
-/
namespace FrameFeed

/-- What has become of a connection. -/
inductive Stage where
  /-- Accepted, and not yet registered. -/
  | queued
  /-- Never to be served. -/
  | refused
  | serving
  | over (e : Ending)
deriving DecidableEq, Repr

/-- The server's end of a connection. -/
structure Line where
  id : Nat
  connection : Connection
  stage : Stage := .queued
  /-- In the table, which holds the stream open. -/
  tracked : Bool := false
  /-- The stream was shut down in both directions. -/
  shut : Bool := false
deriving Repr

namespace Line

/-- The peer reads the end of the stream, and its writes are refused. -/
def isClosed (l : Line) : Bool :=
  l.shut || match l.stage with
    | .queued | .serving => false
    | .refused => true
    | .over _ => !l.tracked

end Line

structure Server (τ : Type) where
  router : Router τ
  service : τ
  settings : ServerSettings := {}
  stopping : Bool := false
  nextId : Nat := 1
  lines : List Line := []

namespace Server

variable {τ : Type}

/-- What a read says that has nothing to give yet. -/
def pending : IoError := ⟨.wouldBlock, "Resource temporarily unavailable (os error 11)"⟩

def line? (id : Nat) (s : Server τ) : Option Line := s.lines.find? (·.id = id)

/-- The server with one of its lines changed. -/
def modify (id : Nat) (f : Line → Line) (s : Server τ) : Server τ :=
  { s with lines := s.lines.map fun l => if l.id = id then f l else l }

def sessionCount (s : Server τ) : Nat := s.lines.countP (·.tracked)

/-! ## Connections come and go -/

/-- The listener accepts a connection. -/
def accept (s : Server τ) : Server τ :=
  let line : Line :=
    { id := s.nextId
      connection := { stream := { ending := some pending }, limit := s.settings.maxPayload }
      stage := if s.stopping then .refused else .queued }
  { s with nextId := s.nextId + 1, lines := s.lines ++ [line] }

/-- An accepted connection enters the table, unless the server is stopping. -/
def enter (id : Nat) (stage : Stage) (s : Server τ) : Server τ :=
  s.modify id fun l =>
    if l.stage ≠ .queued then l
    else if s.stopping then { l with stage := .refused, shut := true }
    else { l with stage, tracked := true }

/-- Begins the session of an accepted connection. -/
def register (id : Nat) (s : Server τ) : Server τ :=
  s.enter id <|
    match Connection.setDeadlines s.settings.idleTimeout s.settings.writeTimeout with
    | .ok () => .serving
    | .error e => .over (.unfit e)

/-- A connection enters the table, but its session cannot begin, for want of a thread or of a handle. -/
def abandon (id : Nat) (e : IoError) : Server τ → Server τ := enter id (.over (.unfit (.io e)))

/-- Turns an accepted connection away, for want of a handle that the table could hold. -/
def decline (id : Nat) (s : Server τ) : Server τ :=
  s.modify id fun l => if l.stage = .queued then { l with stage := .refused, shut := true } else l

/-- A session that has ended without a crash leaves the table. -/
def forget (id : Nat) (s : Server τ) : Server τ :=
  s.modify id fun l =>
    match l.stage with
    | .over .crashed => l
    | .over _ => { l with tracked := false }
    | _ => l

/-- Stops the server. -/
def stop (s : Server τ) : Server τ :=
  { s with
    stopping := true
    lines := s.lines.map fun l => if l.tracked then { l with shut := true } else l }

/-! ## Sessions at work -/

/-- Lets a session answer what has arrived; without anything more to read it goes on. -/
def serve (id : Nat) (arrive : Stream → Stream) (s : Server τ) : Server τ :=
  match s.line? id with
  | none => s
  | some l =>
    if l.stage ≠ .serving then s
    else
      let c := { l.connection with stream := arrive l.connection.stream }
      let (e, c, service) := Session.run s.router c s.service
      let stage := if e = .idle then Stage.serving else .over e
      { s with service }.modify id fun l => { l with connection := c, stage }

/-- Bytes from the peer arrive. -/
def arrive (id : Nat) (b : Bytes) : Server τ → Server τ :=
  serve id fun stream =>
    if b.isEmpty then stream else { stream with arrivals := stream.arrivals ++ [.data b] }

/-- The peer closes its end. -/
def hangUp (id : Nat) : Server τ → Server τ := serve id fun stream => { stream with ending := none }

/-- The deadline for the next request passes. -/
def expire (id : Nat) (s : Server τ) : Server τ :=
  s.modify id fun l => if l.stage = .serving then { l with stage := .over .idle } else l

/-- A read of a session fails. -/
def failRead (id : Nat) (e : IoError) (s : Server τ) : Server τ :=
  if e.isTimeout then s.expire id
  else s.serve id fun stream => { stream with arrivals := stream.arrivals ++ [.failed e] }

/-- Writes of a session fail from now on. -/
def failWrite (id : Nat) (e : IoError) : Server τ → Server τ :=
  serve id fun stream => { stream with refusal := some e }

/-! ## Runs -/

inductive Step where
  | accept
  | register (id : Nat)
  | abandon (id : Nat) (e : IoError)
  | decline (id : Nat)
  | arrive (id : Nat) (b : Bytes)
  | hangUp (id : Nat)
  | expire (id : Nat)
  | failRead (id : Nat) (e : IoError)
  | failWrite (id : Nat) (e : IoError)
  | forget (id : Nat)
  | stop
deriving DecidableEq, Repr

def step (s : Server τ) : Step → Server τ
  | .accept => s.accept
  | .register id => s.register id
  | .abandon id e => s.abandon id e
  | .decline id => s.decline id
  | .arrive id b => s.arrive id b
  | .hangUp id => s.hangUp id
  | .expire id => s.expire id
  | .failRead id e => s.failRead id e
  | .failWrite id e => s.failWrite id e
  | .forget id => s.forget id
  | .stop => s.stop

def run (s : Server τ) (steps : List Step) : Server τ := steps.foldl step s

end Server
end FrameFeed
