import FrameFeed.Proofs.Session.Violation
/-!
# How a session parts from its peer

A message that is served (`Serves`) never ends a session if its reply fits (`turn_goes_on`). So a session
that its peer does not leave and its stream does not fail ends in a violation or a crash, and before a
violation it tells the peer, if what it tells fits (`run_parts_with_word`). `turns` is what a session
received, what it replied and how that went out, turn by turn. What does not fit leaves no trace on the
stream (`send_of_not_fits`), so under a tight limit a session may part in silence.
-/
namespace FrameFeed

/-- The stream is at fault: it is closed, or reading or writing it failed. -/
def WireError.ofStream : WireError → Bool
  | .closed | .io _ => true
  | _ => false

/-- The stream failed a call. -/
def streamFailed {α : Type} : Except WireError α → Bool
  | .error e => e.ofStream
  | .ok _ => false

/-! ## What keeps a message from going out -/

namespace Stream

theorem write_go_ofStream {s : Stream} {b taken : Bytes} {as : List Acceptance} {e : WireError}
    (h : (write.go s b taken as).1 = .error e) : e.ofStream = true := by
  fun_induction write.go s b taken as with
  | case1 => cases h
  | case2 => cases h
  | case3 => cases h; rfl
  | case4 => cases h; rfl
  | case5 _ _ _ _ _ _ ih => exact ih h
  | case6 _ _ _ _ _ _ ih => exact ih h
  | case7 => cases h; rfl

theorem flush_go_ofStream {fs : List (Option IoError)} {e : WireError}
    (h : (flush.go fs).1 = .error e) : e.ofStream = true := by
  fun_induction flush.go fs with
  | case1 => cases h
  | case2 => cases h
  | case3 _ _ _ ih => exact ih h
  | case4 => cases h; rfl

end Stream

namespace Connection

variable {c : Connection} {m : Message}

/-- A message that fits goes out unless the stream fails. -/
theorem send_of_fits (hm : m.Fits c.limit) (h : streamFailed (c.send m).1 = false) :
    (c.send m).1 = .ok () := by
  cases ho : (c.send m).1 with
  | ok => rfl
  | error e =>
    have hstream : e.ofStream = true := by
      rcases send_cases m c with ⟨hn, -⟩ | ⟨w, -, ⟨e', he, hsend⟩ | ⟨-, ⟨e', he, hsend⟩ | ⟨-, hsend⟩⟩⟩
      · exact absurd hm hn
      · rw [hsend] at ho; cases ho
        exact Stream.write_go_ofStream he
      · rw [hsend] at ho; cases ho
        exact Stream.write_go_ofStream he
      · rw [hsend] at ho
        exact Stream.flush_go_ofStream ho
    rw [ho, streamFailed, hstream] at h
    cases h

/-- What stands on the stream after a message: the message, if it fits. -/
theorem sent_of_not_failed (h : streamFailed (c.send m).1 = false) :
    ∃ w, Message.OnWire (if m.Fits c.limit then [m] else []) w ∧
      (c.send m).2.stream.sent = c.stream.sent ++ w := by
  by_cases hm : m.Fits c.limit
  · obtain ⟨w, hw, hsent⟩ := sent_of_send (send_of_fits hm h)
    rw [if_pos hm]
    exact ⟨w, .single hw, hsent⟩
  · obtain ⟨most, h⟩ := send_of_not_fits hm
    rw [if_neg hm, h]
    exact ⟨[], rfl, (List.append_nil _).symm⟩

end Connection

theorem Answer.eq_of_reply? {a : Answer} {r : Reply} (h : a.reply? = some r) :
    a = .reply r ∨ ∃ e, a = .failed (.source e) ∧ r = .error (.ofFrameError e) := by
  unfold reply? at h
  split at h
  · cases h; exact .inl rfl
  · cases h; exact .inr ⟨_, rfl, rfl⟩
  · cases h

namespace Session

variable {τ : Type} {router : Router τ} {c c' : Connection} {s s' : τ}

/-! ## What is served -/

/-- The message is a request, and its handler succeeds or fails as a source does; this is the reply. -/
inductive Serves (router : Router τ) (m : Message) (s : τ) : Reply → Prop
  | replied {q : Request} {h : Handler τ} {r : Reply} : Request.ofMessage m = .ok q →
      router.handler? q.tag = some h → (h q.body s).1 = .reply r → Serves router m s r
  | failed {q : Request} {h : Handler τ} {e : FrameError} : Request.ofMessage m = .ok q →
      router.handler? q.tag = some h → (h q.body s).1 = .failed (.source e) →
      Serves router m s (.error (.ofFrameError e))

theorem serves_iff {m : Message} {r : Reply} :
    Serves router m s r ↔ (answer router m s).1.reply? = some r := by
  constructor
  · intro h
    cases h with
    | replied hq hh ha =>
      rw [answer_of_ok hq, Router.dispatch, hh]
      simp only [ha]; rfl
    | failed hq hh ha =>
      rw [answer_of_ok hq, Router.dispatch, hh]
      simp only [ha]; rfl
  · intro h
    cases hq : Request.ofMessage m with
    | error e =>
      have hv : (answer router m s).1.violation? = some e :=
        violates_iff.1 (violates_of_ofMessage_error hq)
      rw [answer_of_error hq] at h hv
      cases e with
      | source e => cases hv
      | _ => cases h
    | ok q =>
      rw [answer_of_ok hq, Router.dispatch] at h
      cases hh : router.handler? q.tag with
      | none => rw [hh] at h; cases h
      | some handler =>
        simp only [hh] at h
        rcases Answer.eq_of_reply? h with ha | ⟨e, ha, rfl⟩
        · exact .replied hq hh ha
        · exact .failed hq hh ha

/-! ## Turn by turn -/

/-- A turn of a session, as its stream and its peer saw it. -/
structure Turn where
  received : Except WireError Message
  /-- The reply to a request that got one. -/
  reply : Option Reply
  /-- How it went to write what there was to write. -/
  said : Except WireError Unit

/-- The stream did not fail this turn: the peer was there, no read timed out or failed, and no write
failed. -/
def Turn.Smooth (t : Turn) : Prop := streamFailed t.received = false ∧ streamFailed t.said = false

instance (t : Turn) : Decidable t.Smooth := inferInstanceAs (Decidable (_ ∧ _))

/-- The reply to a message that got one. -/
def reply? (router : Router τ) (s : τ) : Except WireError Message → Option Reply
  | .ok m => (answer router m s).1.reply?
  | .error _ => none

/-- What a session tells its peer of a violation. -/
def complaint? (router : Router τ) (s : τ) : Except WireError Message → Option String
  | .ok m => (answer router m s).1.violation?.map ServiceError.message
  | .error e => if e.ofStream then none else some e.message

/-- What a session has to say to what it received. -/
def word? (router : Router τ) (s : τ) (r : Except WireError Message) : Option Reply :=
  (reply? router s r).or ((complaint? router s r).map fun text => .error (.protocol text))

def turnAt (router : Router τ) (c : Connection) (s : τ) : Turn where
  received := c.receive.1
  reply := reply? router s c.receive.1
  said :=
    match word? router s c.receive.1 with
    | some r => (c.receive.2.send r.toMessage).1
    | none => .ok ()

/-- All turns of a session. -/
def turns (router : Router τ) (c : Connection) (s : τ) : List Turn :=
  turnAt router c s ::
    match _h : turn router c s with
    | ((some _, _), _) => []
    | ((none, c), s) => turns router c s
termination_by c.weight
decreasing_by exact weight_turn _h

theorem turns_of_end {ending : Ending} (h : turn router c s = ((some ending, c'), s')) :
    turns router c s = [turnAt router c s] := by
  rw [turns]
  split
  · rfl
  · rename_i h'
    rw [h] at h'; cases h'

theorem turns_of_turn (h : turn router c s = ((none, c'), s')) :
    turns router c s = turnAt router c s :: turns router c' s' := by
  rw [turns]
  split
  · rename_i h'
    rw [h] at h'; cases h'
  · rename_i h'
    rw [h] at h'; cases h'
    rfl

theorem turnAt_mem_turns : turnAt router c s ∈ turns router c s := by
  rw [turns]
  exact .head _

/-- The replies to the requests of a session, in order. -/
def repliesOf (ts : List Turn) : List Reply := ts.filterMap Turn.reply

theorem said_of_word {r : Reply} (h : word? router s c.receive.1 = some r) :
    (turnAt router c s).said = (c.receive.2.send r.toMessage).1 := by
  simp only [turnAt, h]

section
variable {m : Message} {r : Reply} {e : ServiceError}

theorem word?_of_reply (ha : (answer router m s).1.reply? = some r) :
    word? router s (.ok m) = some r := by
  rw [word?, reply?, ha, Option.some_or]

theorem word?_of_violation (ha : (answer router m s).1.reply? = none)
    (hv : (answer router m s).1.violation? = some e) :
    word? router s (.ok m) = some (.error (.protocol e.message)) := by
  rw [word?, reply?, ha, complaint?, hv]
  rfl

theorem word?_of_error {e : WireError} (he : e.ofStream = false) :
    word? router s (.error e) = some (.error (.protocol e.message)) := by
  rw [word?, reply?, complaint?, he]
  rfl

end

/-! ## The last word -/

/-- A session that replied so parts with a word about a violation: the peer is told of it in one more
message, if that fits. -/
structure Parts (c : Connection) (rs : List Reply) (result : Ending × Connection × τ)
    (e : ServiceError) (text : String) : Prop where
  ending : result.1 = .violated e
  /-- What is wrong with a header is told in its own words. -/
  told : text = e.message ∨ ∃ f, e = .wire f ∧ text = f.message
  sent : ∃ w, result.2.1.stream.sent = c.stream.sent ++ w ∧
    Message.OnWire (rs.map Reply.toMessage ++
      if (Reply.error (.protocol text)).toMessage.Fits c.limit
        then [(Reply.error (.protocol text)).toMessage] else []) w

variable {m : Message} {r : Reply} {e : ServiceError} {text : String}

/-- A session that turns its peer away at once. -/
theorem parts_of_reject (ht : turn router c s = (reject e text c.receive.2, s'))
    (htold : text = e.message ∨ ∃ f, e = .wire f ∧ text = f.message)
    (hr : reply? router s c.receive.1 = none)
    (hw : word? router s c.receive.1 = some (.error (.protocol text)))
    (hs : (turnAt router c s).Smooth) :
    Parts c (repliesOf (turns router c s)) (run router c s) e text := by
  have hnone : repliesOf [turnAt router c s] = [] := by
    rw [repliesOf, List.filterMap_cons_none (show (turnAt router c s).reply = none from hr)]
    rfl
  rw [run_of_end ht, turns_of_end ht, hnone]
  have hsaid := hs.2
  rw [said_of_word hw] at hsaid
  obtain ⟨w, hwire, hsent⟩ := Connection.sent_of_not_failed hsaid
  exact ⟨rfl, htold, w, hsent, hwire⟩

/-- A session that goes on after a reply parts as the rest of it does. -/
theorem Parts.cons {w : Bytes} {rs : List Reply} {result : Ending × Connection × τ}
    (hwire : r.toMessage.encode = .ok w) (hsent : c'.stream.sent = c.stream.sent ++ w)
    (hlimit : c'.limit = c.limit) (h : Parts c' rs result e text) : Parts c (r :: rs) result e text := by
  obtain ⟨w', hsent', hwire'⟩ := h.sent
  rw [hlimit] at hwire'
  refine ⟨h.ending, h.told, w ++ w', ?_, ?_⟩
  · rw [hsent', hsent, List.append_assoc]
  · exact (Message.OnWire.single hwire).append hwire'

/-- A reply that fits goes out, and the session goes on. -/
theorem turn_goes_on (hm : c.receive.1 = .ok m) (ha : (answer router m s).1.reply? = some r)
    (hf : r.toMessage.Fits c.limit) (hs : streamFailed (c.receive.2.send r.toMessage).1 = false) :
    turn router c s = ((none, (c.receive.2.send r.toMessage).2), (answer router m s).2) ∧
      ∃ w, r.toMessage.encode = .ok w ∧
        (c.receive.2.send r.toMessage).2.stream.sent = c.stream.sent ++ w ∧
        (c.receive.2.send r.toMessage).2.limit = c.limit := by
  have hok : (c.receive.2.send r.toMessage).1 = .ok () := Connection.send_of_fits hf hs
  obtain ⟨w, hwire, hsent⟩ := Connection.sent_of_send hok
  refine ⟨?_, w, hwire, hsent, (Connection.send_sides _ _).1⟩
  have hsend : Channel.send r.toMessage c.receive.2 = (.ok (), (c.receive.2.send r.toMessage).2) :=
    Prod.ext hok rfl
  rw [turn_reply hm ha, deliver, hsend]

theorem turn_crashed (hm : c.receive.1 = .ok m) (ha : (answer router m s).1 = .crashed) :
    turn router c s = ((some .crashed, c.receive.2), (answer router m s).2) := by
  have hm : Channel.receive c = (.ok m, c.receive.2) := Prod.ext hm rfl
  rcases hp : answer router m s with ⟨a, s₁⟩
  simp only [turn, hm, hp] at ha ⊢
  cases ha
  rfl

/-- The replies of a session that goes on after one. -/
theorem repliesOf_turns (h : turn router c s = ((none, c'), s'))
    (hr : reply? router s c.receive.1 = some r) :
    repliesOf (turns router c s) = r :: repliesOf (turns router c' s') := by
  rw [turns_of_turn h, repliesOf, List.filterMap_cons_some (show (turnAt router c s).reply = _ from hr)]
  rfl

/-- A session that is neither left, failed by its stream nor crashed parts with a word. -/
theorem parts_of_smooth {c : Connection} {s : τ} (hreturns : (run router c s).1 ≠ .crashed)
    (hsmooth : ∀ t ∈ turns router c s, t.Smooth)
    (hfit : ∀ r ∈ repliesOf (turns router c s), r.toMessage.Fits c.limit) :
    ∃ e text, Parts c (repliesOf (turns router c s)) (run router c s) e text := by
  -- on what is left to read; only the turn of a reply leaves a session to go on
  induction hn : c.weight using Nat.strongRecOn generalizing c s with
  | ind n ih =>
    subst hn
    have hs : (turnAt router c s).Smooth := hsmooth _ turnAt_mem_turns
    cases hm : c.receive.1 with
    | error e =>
      have he : e.ofStream = false := by
        have := hs.1
        rwa [turnAt, hm] at this
      have ht : turn router c s = (reject (.wire e) e.message c.receive.2, s) :=
        turn_flaw hm (by rintro rfl; cases he) (by cases e <;> first | rfl | cases he)
      exact ⟨_, _, parts_of_reject ht (.inr ⟨e, rfl, rfl⟩) (by rw [hm]; rfl)
        (by rw [hm]; exact word?_of_error he) hs⟩
    | ok m =>
      have hc : (answer router m s).1 ≠ .crashed := by
        intro ha
        exact hreturns (congrArg Prod.fst (run_of_end (turn_crashed hm ha)))
      rcases Answer.reply?_or_violation? hc with ⟨r, ha, -⟩ | ⟨e, hv, ha, -⟩
      · have hr : reply? router s c.receive.1 = some r := by rw [hm]; exact ha
        have hf : r.toMessage.Fits c.limit :=
          hfit r (List.mem_filterMap.2 ⟨_, turnAt_mem_turns, hr⟩)
        have hsaid : streamFailed (c.receive.2.send r.toMessage).1 = false := by
          rw [← said_of_word (by rw [hm]; exact word?_of_reply ha)]
          exact hs.2
        obtain ⟨ht, w, hwire, hsent, hlimit⟩ := turn_goes_on hm ha hf hsaid
        rw [repliesOf_turns ht hr] at hfit ⊢
        rw [turns_of_turn ht] at hsmooth
        rw [run_of_turn ht] at hreturns ⊢
        obtain ⟨e, text, h⟩ := ih _ (weight_turn ht) hreturns
          (fun t h => hsmooth t (.tail _ h)) (fun r h => hlimit ▸ hfit r (.tail _ h)) rfl
        exact ⟨e, text, Parts.cons hwire hsent hlimit h⟩
      · have ht := turn_violation hm hv
        exact ⟨_, _, parts_of_reject ht (.inl rfl) (by rw [hm]; exact ha)
          (by rw [hm]; exact word?_of_violation ha hv) hs⟩

/-- **A session never drops its peer without a word that fits.** No handler crashes, the peer does not
leave, no read times out or fails and no write to the stream fails (`hsmooth`), and the replies to
requests fit; then the session ends in a violation, and it has written the replies, in order, and after
them the peer is told of the violation, if that fits. In particular, a message that is served by a reply
that fits does not end a session: the reply is written and the session goes on. -/
theorem run_parts_with_word {router : Router τ} {c : Connection} {s : τ}
    (hreturns : (run router c s).1 ≠ .crashed) (hsmooth : ∀ t ∈ turns router c s, t.Smooth)
    (hfit : ∀ r ∈ repliesOf (turns router c s), r.toMessage.Fits c.limit) :
    (∃ e text, Parts c (repliesOf (turns router c s)) (run router c s) e text) ∧
    ∀ (c : Connection) (s : τ) (m : Message) (r : Reply), c.receive.1 = .ok m → Serves router m s r →
      r.toMessage.Fits c.limit → streamFailed (c.receive.2.send r.toMessage).1 = false →
      turn router c s = ((none, (c.receive.2.send r.toMessage).2), (answer router m s).2) ∧
        ∃ w, r.toMessage.encode = .ok w ∧
          (c.receive.2.send r.toMessage).2.stream.sent = c.stream.sent ++ w := by
  refine ⟨parts_of_smooth hreturns hsmooth hfit, ?_⟩
  intro c s m r hm hserves hf hs
  obtain ⟨ht, w, hwire, hsent, -⟩ := turn_goes_on hm (serves_iff.1 hserves) hf hs
  exact ⟨ht, w, hwire, hsent⟩

/-- The peer that asks twice and then sends bytes is answered twice and told of the violation; its first
message does not end the session. -/
theorem run_parts_pinger :
    (∃ e text, Parts pinger [.ack, .ack] (run tally pinger 0) e text) ∧
      (turn tally pinger 0).1.1 = none := by
  have hreturns : (run tally pinger 0).1 ≠ .crashed := by decide +kernel
  have hsmooth : ∀ t ∈ turns tally pinger 0, t.Smooth := by decide +kernel
  have hreplies : repliesOf (turns tally pinger 0) = [.ack, .ack] := by decide +kernel
  have hfit : ∀ r ∈ repliesOf (turns tally pinger 0), r.toMessage.Fits pinger.limit := by
    decide +kernel
  obtain ⟨hparts, hserved⟩ := run_parts_with_word hreturns hsmooth hfit
  rw [hreplies] at hparts
  have hm : pinger.receive.1 = .ok ⟨.json, Bytes.ofText "\x7b\"request\":\"ping\"\x7d"⟩ := by
    decide +kernel
  have hserves : Serves tally ⟨.json, Bytes.ofText "\x7b\"request\":\"ping\"\x7d"⟩ 0 .ack :=
    serves_iff.2 (by decide +kernel)
  obtain ⟨ht, -⟩ := hserved pinger 0 _ .ack hm hserves (by decide +kernel) (by decide +kernel)
  exact ⟨hparts, by rw [ht]⟩

/-- A peer that sends bytes to a session that writes ten bytes a message at most. -/
def tight : Connection :=
  { stream := { arrivals := [.data [0x46, 0x57, 1, 0, 0, 0, 2, 0, 0x78]] }, limit := 10 }

/-- What there is to say of the violation does not fit, so nothing is said. -/
theorem run_tally_tight : (∀ t ∈ turns tally tight 0, t.Smooth) ∧
    (run tally tight 0).1 = .violated (.malformed "requests must be JSON messages") ∧
    (run tally tight 0).2.1.stream.sent = [] ∧
    ∀ ms text, ¬Message.OnWire (ms ++ [(Reply.error (.protocol text)).toMessage])
      (run tally tight 0).2.1.stream.sent := by
  have hsent : (run tally tight 0).2.1.stream.sent = [] := by decide +kernel
  refine ⟨by decide +kernel, by decide +kernel, hsent, ?_⟩
  intro ms text h
  rw [hsent] at h
  exact List.append_ne_nil_of_right_ne_nil ms (List.cons_ne_nil _ _) h.eq_nil

end Session
end FrameFeed
