import FrameFeed.Wire.Message
import FrameFeed.Wire.Space
import FrameFeed.Wire.Stream
/-!
# Messages over a stream

A `Connection` cuts a stream into messages. Bytes of a message that is not complete stay in its
buffer, so a read that failed loses nothing: the next `receive` goes on where the last one stopped.
`send` refuses a payload over the limit before a byte of it is written.
-/
namespace FrameFeed

/-- Two ways to exchange messages with a peer. -/
class Channel (σ : Type) where
  send : Message → σ → Except WireError Unit × σ
  receive : σ → Except WireError Message × σ

structure Connection where
  stream : Stream := {}
  buffer : Bytes := []
  space : Space := ⟨64 * 1024, 0⟩
  limit : Nat := Message.defaultLimit
deriving Repr

namespace Connection

/-- Sets the deadlines of reads and writes, in milliseconds. One of no time at all cannot be set. -/
def setDeadlines (read write : Option Nat) : Except WireError Unit :=
  if read = some 0 ∨ write = some 0 then .error (.io ⟨.other, "cannot set a 0 duration timeout"⟩)
  else .ok ()

/-- A read offers at least this much room. -/
def readSize : Nat := 64 * 1024

/-- The room that the next read offers: all that the buffer has once it can hold the message begun. -/
def offer (buffer : Bytes) (space : Space) : Nat :=
  max readSize ((space.grow buffer.length (Message.missing buffer)).room buffer.length)

/-- The space of the buffer when that room is offered. -/
def prepare (buffer : Bytes) (space : Space) : Space :=
  (space.grow buffer.length (Message.missing buffer)).grow buffer.length (offer buffer space)

/-- Takes arrivals into the buffer until a message is complete or the stream gives out. -/
def collect (limit : Nat) (ending : Option IoError) (buffer : Bytes) (space : Space)
    (arrivals : List Arrival) : Except WireError Message × Bytes × Space × List Arrival :=
  match Message.decode limit buffer with
  | .error e => (.error e, buffer, space, arrivals)
  | .ok (some (m, rest)) => (.ok m, rest, space.advance m.wireSize, arrivals)
  | .ok none =>
    let prepared := prepare buffer space
    match arrivals with
    | [] =>
      match ending with
      | none => (.error .closed, buffer, prepared, [])
      | some e => (.error (.io e), buffer, prepared, [])
    | .failed e :: as =>
      if e.kind = .interrupted then collect limit ending buffer prepared as
      else (.error (.io e), buffer, prepared, as)
    | .data [] :: as => (.error .closed, buffer, prepared, as)
    | .data (c :: b) :: as =>
      let room := offer buffer space
      if (c :: b).length ≤ room then collect limit ending (buffer ++ c :: b) prepared as
      else
        collect limit ending (buffer ++ (c :: b).take room) prepared
          (.data ((c :: b).drop room) :: as)
termination_by Stream.weight arrivals
decreasing_by
  all_goals simp only [Stream.weight, List.length_cons, List.length_drop]
  · omega
  · omega
  · have : readSize ≤ room := Nat.le_max_left _ _
    simp only [readSize] at this
    omega

/-- The next message. -/
def receive (c : Connection) : Except WireError Message × Connection :=
  let (result, buffer, space, arrivals) :=
    collect c.limit c.stream.ending c.buffer c.space c.stream.arrivals
  (result, { c with buffer, space, stream := { c.stream with arrivals } })

/-- Writes a whole message, then flushes. -/
def send (m : Message) (c : Connection) : Except WireError Unit × Connection :=
  if c.limit < m.payload.length then (.error (.payloadTooLarge m.payload.length c.limit), c)
  else
    match Message.header m.kind m.payload.length with
    | .error e => (.error e, c)
    | .ok h =>
      match c.stream.write h with
      | (.error e, s) => (.error e, { c with stream := s })
      | (.ok (), s) =>
        match s.write m.payload with
        | (.error e, s) => (.error e, { c with stream := s })
        | (.ok (), s) =>
          let (outcome, s) := s.flush
          (outcome, { c with stream := s })

def flush (c : Connection) : Except WireError Unit × Connection :=
  let (outcome, s) := c.stream.flush
  (outcome, { c with stream := s })

instance : Channel Connection := ⟨send, receive⟩

/-! ## What is left to read -/

/-- A measure of what is in the buffer and still to arrive. -/
def weight (c : Connection) : Nat := c.buffer.length + Stream.weight c.stream.arrivals

theorem weight_collect {limit : Nat} {ending : Option IoError} {b : Bytes} {sp : Space}
    {as : List Arrival} {m : Message} {r : Bytes} {sp' : Space} {left : List Arrival}
    (h : collect limit ending b sp as = (.ok m, r, sp', left)) :
    m.wireSize + (r.length + Stream.weight left) ≤ b.length + Stream.weight as := by
  fun_induction collect limit ending b sp as with
  | case1 => cases h
  | case2 b _ as m' rest hd =>
    cases h
    have := Message.length_of_decode hd
    omega
  | case3 => cases h
  | case4 => cases h
  | case5 _ _ _ _ _ _ _ ih =>
    have := ih h
    simp only [Stream.weight]; omega
  | case6 => cases h
  | case7 => cases h
  | case8 _ _ _ _ _ _ _ _ _ ih =>
    have := ih h
    simp only [Stream.weight, List.length_append, List.length_cons] at *; omega
  | case9 _ _ _ _ _ _ _ _ _ ih =>
    have := ih h
    simp only [Stream.weight, List.length_append, List.length_take, List.length_drop,
      List.length_cons] at *; omega

/-- A message received leaves less to read. -/
theorem weight_receive {c c' : Connection} {m : Message} (h : c.receive = (.ok m, c')) :
    c'.weight < c.weight := by
  obtain ⟨stream, buffer, space, limit⟩ := c
  simp only [receive, Prod.mk.injEq] at h
  obtain ⟨hm, rfl⟩ := h
  have := weight_collect (Prod.ext hm rfl)
  simp only [Message.wireSize, Message.headerSize] at this
  simp only [weight]; omega

/-- Sending leaves what there is to read as it is. -/
theorem weight_send (m : Message) (c : Connection) : (c.send m).2.weight = c.weight := by
  simp only [send]
  repeat' split
  all_goals simp_all [weight, Stream.write, Stream.flush]
  all_goals grind

end Connection
end FrameFeed
