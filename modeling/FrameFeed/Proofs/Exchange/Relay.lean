import FrameFeed.Proofs.Exchange.Messages
import FrameFeed.Proofs.Session.Course
import Mathlib.Logic.Function.Iterate
/-!
# Causes that are passed on

A server whose source failed tells its client of the cause; if that client is the source of another
server, the cause is passed on from there (`FrameError.relay`). A cause arrives as it was (`heard_eq`),
except that one nobody knows has its tag put before its detail on every passage (`passed`). Its tag
stays, and with it what can be done about it.
-/
namespace FrameFeed
namespace FrameError

variable {e : FrameError}

/-- What a client makes of the reply that tells it of a cause. -/
def heard (e : FrameError) : Except FrameError Reply :=
  Reply.ofMessage (Reply.error (.ofFrameError e)).toMessage

/-- What is made of a cause in the end that is told this many times, each time as it was heard. -/
def relay : Nat → FrameError → Except FrameError Reply
  | 0, e => .error e
  | n + 1, e =>
    match e.heard with
    | .error e => relay n e
    | .ok r => .ok r

/-- A cause after one passage. -/
def passed : FrameError → FrameError
  | unknown detail => unknown (if detail.isEmpty then "unknown" else "unknown: " ++ detail)
  | e => e

/-! ## One passage -/

theorem passed_of_known (h : e.tag ≠ "unknown") : e.passed = e := by
  cases e with
  | unknown => exact absurd rfl h
  | _ => rfl

/-- What kind of cause it is does not change, nor what can be done about it. -/
theorem passed_keeps (e : FrameError) : e.passed.tag = e.tag ∧
    e.passed.isRecoverable = e.isRecoverable ∧ e.passed.isTerminal = e.isTerminal := by
  cases e <;> exact ⟨rfl, rfl, rfl⟩

/-- A peer that reports a buffer too small for a frame has failed, and the report becomes the detail. -/
theorem heard_insufficientCapacity (m : Metadata) (capacity : Nat) :
    heard (.insufficientCapacity m capacity) = .error (.faulted
      ("peer reported insufficient capacity: " ++ (insufficientCapacity m capacity).message)) := by
  have hsaid : (insufficientCapacity m capacity).message.isEmpty = false := by
    rw [String.isEmpty_eq_false_iff]
    intro hempty
    unfold message at hempty
    simp only [String.append_eq_empty_iff] at hempty
    exact absurd hempty.1.1.1 (by decide)
  have hreply : ErrorReply.ofFrameError (.insufficientCapacity m capacity) =
      ⟨"insufficientCapacity", (insufficientCapacity m capacity).message⟩ := rfl
  have htag : ("insufficientCapacity" = ErrorReply.protocolTag) = False := by simp [ErrorReply.protocolTag]
  have hjoined : "peer reported insufficient capacity" ++ ": " = "peer reported insufficient capacity: " := by decide
  have hrebuilt (text : String) : ofTag "insufficientCapacity" (some text) =
      .faulted ("peer reported insufficient capacity" ++ ": " ++ text) := by
    unfold ofTag
    rfl
  rw [heard, Reply.ofMessage_error, hreply]
  unfold ErrorReply.toFrameError
  simp only [htag, hsaid, if_false, Bool.false_eq_true]
  rw [hrebuilt, hjoined]

theorem heard_eq (hcapacity : e.tag ≠ "insufficientCapacity") : e.heard = .error e.passed := by
  rw [heard, Reply.ofMessage_error]
  by_cases hunknown : e.tag = "unknown"
  · cases e with
    | unknown detail =>
      by_cases hd : detail.isEmpty = true <;>
        simp [ErrorReply.toFrameError, ErrorReply.ofFrameError, ErrorReply.protocolTag, passed, tag,
          FrameError.detail, ofTag, hd]
    | _ => simp [tag] at hunknown
  · rw [ErrorReply.toFrameError_ofFrameError hcapacity hunknown, passed_of_known hunknown]

/-- A client is told of a cause that nobody knows with its tag before the detail, and not as it was. -/
theorem heard_unknown : heard (.unknown "bit flip") = .error (.unknown "unknown: bit flip") ∧
    heard (.unknown "bit flip") ≠ .error (.unknown "bit flip") := by
  have hheard : heard (.unknown "bit flip") = .error (.unknown "unknown: bit flip") := heard_eq (by decide)
  rw [hheard]
  exact ⟨rfl, by decide⟩

/-! ## Passage after passage -/

theorem iterate_passed_of_known (h : e.tag ≠ "unknown") (n : Nat) : passed^[n] e = e :=
  Function.iterate_fixed (passed_of_known h) n

theorem iterate_passed_keeps (e : FrameError) (n : Nat) : (passed^[n] e).tag = e.tag ∧
    (passed^[n] e).isRecoverable = e.isRecoverable ∧ (passed^[n] e).isTerminal = e.isTerminal := by
  induction n generalizing e with
  | zero => exact ⟨rfl, rfl, rfl⟩
  | succ n ih =>
    obtain ⟨htag, hrecoverable, hterminal⟩ := ih e.passed
    obtain ⟨htag', hrecoverable', hterminal'⟩ := e.passed_keeps
    exact ⟨htag.trans htag', hrecoverable.trans hrecoverable', hterminal.trans hterminal'⟩

theorem relay_succ {e' : FrameError} (h : e.heard = .error e') (n : Nat) :
    relay (n + 1) e = relay n e' := by
  show (match e.heard with
    | .error e => relay n e
    | .ok r => .ok r) = relay n e'
  rw [h]

theorem relay_eq (hcapacity : e.tag ≠ "insufficientCapacity") (n : Nat) :
    relay n e = .error (passed^[n] e) := by
  induction n generalizing e with
  | zero => rfl
  | succ n ih =>
    have hcapacity' : e.passed.tag ≠ "insufficientCapacity" := by
      rw [e.passed_keeps.1]
      exact hcapacity
    calc relay (n + 1) e = relay n e.passed := relay_succ (heard_eq hcapacity) n
      _ = .error (passed^[n] e.passed) := ih hcapacity'

/-- **A cause crosses the wire.** A session whose handler fails with a cause sends a reply that a client
takes for that cause after one passage, and this is so however often it is passed on. The cause arrives
unchanged unless nobody knows it; then each passage puts its tag before the detail. In any case its tag
stays, and so does what can be done about it. -/
theorem relay_retold (hcapacity : e.tag ≠ "insufficientCapacity") (n : Nat) :
    relay n e = .error (passed^[n] e) ∧ (e.tag ≠ "unknown" → passed^[n] e = e) ∧
      (passed^[n] e).tag = e.tag ∧ (passed^[n] e).isRecoverable = e.isRecoverable ∧
      (passed^[n] e).isTerminal = e.isTerminal ∧
      ∀ (τ : Type) (router : Router τ) (c : Connection) (s : τ) (m : Message),
        c.receive.1 = .ok m → (Session.answer router m s).1 = .failed (.source e) →
          ∃ r, Session.turn router c s =
              (Session.deliver r c.receive.2, (Session.answer router m s).2) ∧
            Reply.ofMessage r.toMessage = .error e.passed := by
  obtain ⟨htag, hrecoverable, hterminal⟩ := iterate_passed_keeps e n
  refine ⟨relay_eq hcapacity n, fun h => iterate_passed_of_known h n, htag, hrecoverable, hterminal, ?_⟩
  intro τ router c s m hm ha
  refine ⟨_, Session.turn_reply hm (by rw [ha]; rfl), heard_eq hcapacity⟩

/-- Three servers in a row pass on a wrong parameter as it was; a cause that nobody knows has its tag put
before it by each of two. -/
theorem relay_retold_thrice :
    relay 3 (.invalidParameter "width \"0\"\n") = .error (.invalidParameter "width \"0\"\n") ∧
      relay 2 (.unknown "bit flip") = .error (.unknown "unknown: unknown: bit flip") := by
  obtain ⟨hparameter, hsame, -⟩ := relay_retold (e := .invalidParameter "width \"0\"\n") (by decide) 3
  obtain ⟨hunknown, -⟩ := relay_retold (e := .unknown "bit flip") (by decide) 2
  exact ⟨by rw [hparameter, hsame (by decide)], hunknown⟩

end FrameError
end FrameFeed
