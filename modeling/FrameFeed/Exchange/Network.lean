import FrameFeed.Exchange.Client
import FrameFeed.Exchange.Server
/-!
# Clients and their server

A `Link` is a client's channel to a server within reach: what the client writes arrives at its
session at once, and what the session writes can be read at once. A `Network` is a server with any
number of clients.
-/
namespace FrameFeed

structure Link (τ : Type) where
  server : Server τ
  /-- The number of the line at the server. -/
  id : Nat
  /-- The client's end. -/
  connection : Connection := {}

namespace Link

variable {τ : Type}

def brokenPipe : IoError := ⟨.brokenPipe, "Broken pipe (os error 32)"⟩

/-- Takes over what the session wrote, and whether its end is closed. -/
def gather (l : Link τ) : Link τ :=
  match l.server.line? l.id with
  | none => l
  | some line =>
    let sent := line.connection.stream.sent
    let stream := l.connection.stream
    let stream := { stream with
      arrivals := if sent.isEmpty then stream.arrivals else stream.arrivals ++ [.data sent]
      ending := if line.isClosed then none else some Server.pending
      refusal := if line.isClosed then some brokenPipe else none }
    let emptied (line : Line) : Line :=
      { line with connection := { line.connection with stream := { line.connection.stream with sent := [] } } }
    { l with connection := { l.connection with stream }, server := l.server.modify l.id emptied }

/-- Hands what the client wrote to the session. -/
def forward (l : Link τ) : Link τ :=
  let sent := l.connection.stream.sent
  let connection := { l.connection with stream := { l.connection.stream with sent := [] } }
  gather { l with connection, server := (l.server.arrive l.id sent).forget l.id }

instance : Channel (Link τ) where
  send m l :=
    let l := l.gather
    let (r, connection) := l.connection.send m
    (r, { l with connection }.forward)
  receive l :=
    let l := l.gather
    let (r, connection) := l.connection.receive
    (r, { l with connection })

/-- Opens a link to a server, which accepts and registers the connection. -/
def dial (limit : Nat) (s : Server τ) : Link τ where
  server := (s.accept.register s.nextId).forget s.nextId
  id := s.nextId
  connection := { limit }

/-- A client's end is closed. -/
def close (l : Link τ) : Server τ := (l.server.hangUp l.id).forget l.id

end Link

/-- A server and its clients; a client that went away, or never came to be, leaves its place. -/
structure Network (τ : Type) where
  server : Server τ
  clients : List (Option (Client (Link τ))) := []

namespace Network

variable {τ α : Type}

def client? (i : Nat) (n : Network τ) : Option (Client (Link τ)) := n.clients[i]?.join

/-- Connects one more client. -/
def connect (s : ClientSettings) (n : Network τ) : Except FrameError Unit × Network τ :=
  let link := Link.dial s.maxPayload n.server
  match Client.start s link with
  | .ok c => (.ok (), ⟨link.server, n.clients ++ [some c]⟩)
  | .error e => (.error e, { n with server := link.close })

/-- A call of one client, which meets the server as the others left it. -/
def call (i : Nat) (f : Client (Link τ) → α × Client (Link τ)) (n : Network τ) :
    Option α × Network τ :=
  match n.client? i with
  | none => (none, n)
  | some c =>
    let (r, c) := f { c with channel := { c.channel with server := n.server } }
    (some r, ⟨c.channel.server, n.clients.set i (some c)⟩)

/-- A client goes away. -/
def disconnect (i : Nat) (n : Network τ) : Network τ :=
  match n.client? i with
  | none => n
  | some c => ⟨{ c.channel with server := n.server }.close, n.clients.set i none⟩

end Network
end FrameFeed
