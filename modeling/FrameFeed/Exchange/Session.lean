import FrameFeed.Exchange.Router
import FrameFeed.Wire.Connection
/-!
# Sessions

A session answers the messages of one peer, one after the other, until the peer leaves, a deadline
passes or something is wrong. A message that cannot be read, a request that cannot be understood or
that nobody answers is a violation: the peer is told so, and the session ends. A failure of the
source is an answer, and the session goes on.

`turn` answers one message, `run` all there are.
-/
namespace FrameFeed

/-- How a session ends. -/
inductive Ending where
  /-- The peer closed the stream. -/
  | left
  /-- The peer asked for nothing until the deadline. -/
  | idle
  /-- The peer was told of a violation, if it could be told. -/
  | violated (e : ServiceError)
  /-- A reply could not be written. -/
  | unsent (e : WireError)
  /-- A handler crashed. -/
  | crashed
  /-- The session never began: its deadlines could not be set, or a thread or a handle of the stream could not
  be had for it. -/
  | unfit (e : WireError)
deriving DecidableEq, Repr

namespace Ending

/-- The session ended in good order. -/
def isClean : Ending → Bool
  | left | idle => true
  | _ => false

end Ending

namespace Session

variable {σ τ : Type}

/-- What a message comes to. -/
def answer (router : Router τ) (m : Message) (s : τ) : Answer × τ :=
  match Request.ofMessage m with
  | .ok q => router.dispatch q s
  | .error e => (.failed e, s)

/-- Writes a reply; without an ending the session goes on. -/
def deliver [Channel σ] (r : Reply) (c : σ) : Option Ending × σ :=
  match Channel.send r.toMessage c with
  | (.ok (), c) => (none, c)
  | (.error e, c) => (some (.unsent e), c)

/-- Tells the peer of a violation, if it can be told, and ends the session. -/
def reject [Channel σ] (e : ServiceError) (text : String) (c : σ) : Option Ending × σ :=
  (some (.violated e), (Channel.send (Reply.error (.protocol text)).toMessage c).2)

/-- Answers one message. -/
def turn [Channel σ] (router : Router τ) (c : σ) (s : τ) : (Option Ending × σ) × τ :=
  match Channel.receive c with
  | (.ok m, c) =>
    match answer router m s with
    | (.returned (.ok r), s) => (deliver r c, s)
    | (.returned (.error (.source e)), s) => (deliver (.error (.ofFrameError e)) c, s)
    | (.returned (.error e), s) => (reject e e.message c, s)
    | (.crashed, s) => ((some .crashed, c), s)
  | (.error .closed, c) => ((some .left, c), s)
  | (.error e, c) => if e.isTimeout then ((some .idle, c), s) else (reject (.wire e) e.message c, s)

theorem weight_deliver {r : Reply} {c : Connection} : (deliver r c).2.weight = c.weight := by
  have := Connection.weight_send r.toMessage c
  simp only [deliver]
  split <;> simp_all [Channel.send]

/-- A session that goes on has taken up a message. -/
theorem weight_turn {router : Router τ} {c c' : Connection} {s s' : τ}
    (h : turn router c s = ((none, c'), s')) : c'.weight < c.weight := by
  unfold turn at h
  split at h
  · rename_i m c₁ hr
    have := Connection.weight_receive hr
    split at h
    · have := (Prod.ext_iff.1 (Prod.ext_iff.1 h).1).2
      simp only at this
      rw [← this, weight_deliver]; assumption
    · have := (Prod.ext_iff.1 (Prod.ext_iff.1 h).1).2
      simp only at this
      rw [← this, weight_deliver]; assumption
    · simp [reject] at h
    · simp at h
  · simp at h
  · split at h <;> simp [reject] at h

/-- Answers messages until the session ends. -/
def run (router : Router τ) (c : Connection) (s : τ) : Ending × Connection × τ :=
  match _h : turn router c s with
  | ((some e, c), s) => (e, c, s)
  | ((none, c), s) => run router c s
termination_by c.weight
decreasing_by exact weight_turn _h

end Session
end FrameFeed
