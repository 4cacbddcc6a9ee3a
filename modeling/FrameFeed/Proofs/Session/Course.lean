import FrameFeed.Exchange.Session
import FrameFeed.Proofs.Wire.Traffic
/-!
# The course of a session

What a session does is decided by the messages of its peer. Each is answered, in order, up to the
first violation; the peer is told of that, or else of a header that cannot be read after the messages,
and nothing behind it is looked at. `good` counts the messages before the first violation, `violation`
is what ends the session and `replies` is all it writes; `run_follows` says that a session runs so.
-/
namespace FrameFeed

variable {τ : Type}

/-- No handler crashes. -/
def Router.Returns (router : Router τ) : Prop :=
  ∀ tag h, router.handler? tag = some h → ∀ body s, (h body s).1 ≠ .crashed

namespace Answer

/-- The reply that an answer makes, if the session goes on with it. -/
def reply? : Answer → Option Reply
  | .returned (.ok r) => some r
  | .returned (.error (.source e)) => some (.error (.ofFrameError e))
  | _ => none

/-- The violation that an answer tells of. -/
def violation? : Answer → Option ServiceError
  | .returned (.error (.source _)) => none
  | .returned (.error e) => some e
  | _ => none

/-- An answer keeps the session going or ends it, unless it is a crash. -/
theorem reply?_or_violation? {a : Answer} (h : a ≠ .crashed) :
    (∃ r, a.reply? = some r ∧ a.violation? = none) ∨
      ∃ e, a.violation? = some e ∧ a.reply? = none ∧ e.endsSession = true := by
  cases a with
  | crashed => exact absurd rfl h
  | returned r =>
    cases r with
    | ok r => exact .inl ⟨r, rfl, rfl⟩
    | error e =>
      cases e with
      | source e => exact .inl ⟨_, rfl, rfl⟩
      | _ => exact .inr ⟨_, rfl, rfl, rfl⟩

end Answer

namespace Connection

/-- The messages that come before the stream gives out. -/
def messages (c : Connection) : List Message := (Message.decodeAll c.limit c.ahead).1

/-- What is wrong with the header after them. -/
def flaw (c : Connection) : Option WireError := (Message.decodeAll c.limit c.ahead).2.2

/-- The message that is received is the first of those that are to come. -/
theorem messages_of_receive {c : Connection} {m : Message} (h : c.receive.1 = .ok m) :
    c.messages = m :: c.receive.2.messages := by
  have hreceive := c.receive_ahead
  split at hreceive
  · rename_i m' r hd
    obtain ⟨hm, hahead, -⟩ := hreceive
    cases h.symm.trans hm
    rw [messages, Message.decodeAll_of_some hd, messages, hahead]
    rfl
  · cases h.symm.trans hreceive
  · cases h.symm.trans hreceive

theorem messages_send (m : Message) (c : Connection) : (c.send m).2.messages = c.messages := by
  rw [messages, (send_sides m c).1, ahead_send, messages]

end Connection

namespace Session

/-! ## What the messages decide -/

/-- The answers to messages, were they all taken up. -/
def answers (router : Router τ) : List Message → τ → List Answer
  | [], _ => []
  | m :: ms, s => (answer router m s).1 :: answers router ms (answer router m s).2

/-- How many messages come before the first violation; all of them if there is none. -/
def good (router : Router τ) (ms : List Message) (s : τ) : Nat :=
  (answers router ms s).findIdx (·.violation?.isSome)

/-- What ends a session, with what the peer is told of it: the first violation, or else the flaw of the
header after the messages. -/
def violation (router : Router τ) (ms : List Message) (flaw : Option WireError) (s : τ) :
    Option (ServiceError × String) :=
  match (answers router ms s)[good router ms s]? with
  | some a => a.violation?.map fun e => (e, e.message)
  | none => flaw.map fun e => (.wire e, e.message)

/-- All that a session writes: a reply to each message before the first violation, and a word about
what ends it. -/
def replies (router : Router τ) (ms : List Message) (flaw : Option WireError) (s : τ) : List Reply :=
  ((answers router ms s).take (good router ms s)).filterMap Answer.reply? ++
    ((violation router ms flaw s).map fun v => Reply.error (.protocol v.2)).toList

/-- The requests among messages. -/
def requests (ms : List Message) : List Request := ms.filterMap fun m => (Request.ofMessage m).toOption

/-- The state after requests were dispatched, one after the other. -/
def dispatchAll (router : Router τ) (qs : List Request) (s : τ) : τ :=
  qs.foldl (fun s q => (router.dispatch q s).2) s

section
variable {router : Router τ} {m : Message} {ms : List Message} {flaw : Option WireError} {s : τ}
variable {e : ServiceError} {r : Reply}

theorem good_cons_of_violation (h : (answer router m s).1.violation? = some e) :
    good router (m :: ms) s = 0 := by
  simp [good, answers, List.findIdx_cons, h]

theorem good_cons (h : (answer router m s).1.violation? = none) :
    good router (m :: ms) s = good router ms (answer router m s).2 + 1 := by
  simp [good, answers, List.findIdx_cons, h]

theorem violation_cons_of_violation (h : (answer router m s).1.violation? = some e) :
    violation router (m :: ms) flaw s = some (e, e.message) := by
  simp [violation, good_cons_of_violation h, answers, h]

theorem violation_cons (h : (answer router m s).1.violation? = none) :
    violation router (m :: ms) flaw s = violation router ms flaw (answer router m s).2 := by
  simp [violation, good_cons h, answers]

theorem replies_cons_of_violation (h : (answer router m s).1.violation? = some e) :
    replies router (m :: ms) flaw s = [.error (.protocol e.message)] := by
  simp [replies, good_cons_of_violation h, violation_cons_of_violation h]

theorem replies_cons (h : (answer router m s).1.violation? = none)
    (hr : (answer router m s).1.reply? = some r) :
    replies router (m :: ms) flaw s = r :: replies router ms flaw (answer router m s).2 := by
  simp [replies, good_cons h, violation_cons h, answers, hr]

/-- Answering a message dispatches the request it is, if it is one. -/
theorem dispatchAll_requests_cons (n : Nat) :
    dispatchAll router (requests ((m :: ms).take (n + 1))) s =
      dispatchAll router (requests (ms.take n)) (answer router m s).2 := by
  rw [List.take_succ_cons, requests, List.filterMap_cons, answer]
  cases Request.ofMessage m <;> rfl

theorem answer_ne_crashed (hret : router.Returns) : (answer router m s).1 ≠ .crashed := by
  unfold answer
  split
  · rename_i q _
    unfold Router.dispatch
    split
    · rename_i h hh; exact hret _ h hh _ _
    · exact nofun
  · exact nofun

end

/-! ## One turn -/

section
variable {router : Router τ} {c c' : Connection} {s s' : τ} {m : Message} {r : Reply} {e : ServiceError}

theorem turn_reply (hm : c.receive.1 = .ok m) (ha : (answer router m s).1.reply? = some r) :
    turn router c s = (deliver r c.receive.2, (answer router m s).2) := by
  have hm : Channel.receive c = (.ok m, c.receive.2) := Prod.ext hm rfl
  rcases hp : answer router m s with ⟨a, s₁⟩
  simp only [turn, hm, hp] at ha ⊢
  cases a with
  | crashed => cases ha
  | returned o =>
    cases o with
    | ok r => cases ha; rfl
    | error e =>
      cases e with
      | source e => cases ha; rfl
      | _ => cases ha

theorem turn_violation (hm : c.receive.1 = .ok m) (ha : (answer router m s).1.violation? = some e) :
    turn router c s = (reject e e.message c.receive.2, (answer router m s).2) := by
  have hm : Channel.receive c = (.ok m, c.receive.2) := Prod.ext hm rfl
  rcases hp : answer router m s with ⟨a, s₁⟩
  simp only [turn, hm, hp] at ha ⊢
  cases a with
  | crashed => cases ha
  | returned o =>
    cases o with
    | ok r => cases ha
    | error e =>
      cases e with
      | source e => cases ha
      | _ => cases ha; rfl

theorem turn_flaw {e : WireError} (he : c.receive.1 = .error e) (hc : e ≠ .closed)
    (ht : e.isTimeout = false) :
    turn router c s = (reject (.wire e) e.message c.receive.2, s) := by
  have he : Channel.receive c = (.error e, c.receive.2) := Prod.ext he rfl
  cases e with
  | closed => exact absurd rfl hc
  | _ => simp [turn, he, ht]

/-- Nothing more comes. -/
theorem turn_stop (he : c.receive.1 = .error (Connection.stopError c.stop))
    (ht : ∀ e, c.stop = some e → e.isTimeout = true) :
    turn router c s = ((some (if c.stop.isSome then .idle else .left), c.receive.2), s) := by
  have he : Channel.receive c = (.error (Connection.stopError c.stop), c.receive.2) := Prod.ext he rfl
  simp only [turn, he]
  cases hs : c.stop with
  | none => rfl
  | some e => simp [Connection.stopError, WireError.isTimeout, ht e hs]

/-- A turn answers a message and goes on if the reply is written, ends with a violation, or ends with none. -/
theorem turn_cases (router : Router τ) (c : Connection) (s : τ) :
    (∃ m r, c.receive.1 = .ok m ∧ (answer router m s).1.reply? = some r ∧
      turn router c s = (deliver r c.receive.2, (answer router m s).2)) ∨
    (∃ m e, c.receive.1 = .ok m ∧ (answer router m s).1.violation? = some e ∧
      turn router c s = (reject e e.message c.receive.2, (answer router m s).2)) ∨
    (∃ f : WireError, turn router c s = (reject (.wire f) f.message c.receive.2, s)) ∨
    ∃ ending, (turn router c s).1.1 = some ending ∧ ∀ e, ending ≠ .violated e := by
  cases hr : c.receive.1 with
  | error f =>
    have hreceive : Channel.receive c = (.error f, c.receive.2) := Prod.ext hr rfl
    by_cases hclosed : f = .closed
    · subst hclosed
      exact .inr (.inr (.inr ⟨.left, by simp only [turn, hreceive], by simp⟩))
    by_cases htimeout : f.isTimeout = true
    · refine .inr (.inr (.inr ⟨.idle, ?_, by simp⟩))
      cases f <;> simp_all [turn]
    · exact .inr (.inr (.inl ⟨f, turn_flaw hr hclosed (Bool.eq_false_iff.2 htimeout)⟩))
  | ok m =>
    by_cases hcrashed : (answer router m s).1 = .crashed
    · have hreceive : Channel.receive c = (.ok m, c.receive.2) := Prod.ext hr rfl
      refine .inr (.inr (.inr ⟨.crashed, ?_, by simp⟩))
      rcases hanswer : answer router m s with ⟨a, s₁⟩
      rw [hanswer] at hcrashed
      cases hcrashed
      simp only [turn, hreceive, hanswer]
    · rcases (answer router m s).1.reply?_or_violation? hcrashed with ⟨r, hreply, -⟩ | ⟨e, he, -, -⟩
      · exact .inl ⟨m, r, rfl, hreply, turn_reply hr hreply⟩
      · exact .inr (.inl ⟨m, e, rfl, he, turn_violation hr he⟩)

theorem messages_deliver (r : Reply) (c : Connection) : (deliver r c).2.messages = c.messages := by
  rw [← Connection.messages_send r.toMessage c]
  unfold deliver
  split <;> rename_i h <;> rw [show (c.send r.toMessage).2 = _ from congrArg Prod.snd h]

/-- A turn with which the session goes on takes up one message. -/
theorem messages_of_turn (h : turn router c s = ((none, c'), s')) : ∃ m, c.messages = m :: c'.messages := by
  rcases turn_cases router c s with
    ⟨m, r, hm, -, hturn⟩ | ⟨m, e, -, -, hturn⟩ | ⟨f, hturn⟩ | ⟨ending, hturn, -⟩ <;> rw [h] at hturn
  · have hdeliver : (none, c') = deliver r c.receive.2 := congrArg Prod.fst hturn
    have hmessages := messages_deliver r c.receive.2
    rw [← hdeliver] at hmessages
    exact ⟨m, (Connection.messages_of_receive hm).trans (congrArg _ hmessages.symm)⟩
  · cases hturn
  · cases hturn
  · cases hturn

theorem run_of_end {ending : Ending} (h : turn router c s = ((some ending, c'), s')) :
    run router c s = (ending, c', s') := by
  rw [run]
  split <;> rename_i h' <;> rw [h] at h' <;> cases h'
  rfl

theorem run_of_turn (h : turn router c s = ((none, c'), s')) :
    run router c s = run router c' s' := by
  rw [run]
  split <;> rename_i h' <;> rw [h] at h' <;> cases h'
  rfl

end

/-! ## A whole session -/

/-- A reply that fits reaches a peer that takes it, whole, and changes nothing about what is to come. -/
theorem deliver_spec {c : Connection} {r : Reply} (hw : c.stream.Writable)
    (hf : r.toMessage.Fits c.limit) :
    ∃ c' w, Channel.send r.toMessage c = (.ok (), c') ∧ c'.limit = c.limit ∧ c'.ahead = c.ahead ∧
      c'.stop = c.stop ∧ c'.stream.Writable ∧ r.toMessage.encode = .ok w ∧
      c'.stream.sent = c.stream.sent ++ w := by
  obtain ⟨hok, hw'⟩ := Connection.send_of_writable hw hf
  obtain ⟨w, hwire, hsent⟩ := Connection.sent_of_send hok
  exact ⟨_, w, Prod.ext hok rfl, (Connection.send_sides _ _).1, Connection.ahead_send,
    Connection.stop_send, hw', hwire, hsent⟩

/-- A session on a connection comes to this result. -/
structure Follows (router : Router τ) (c : Connection) (s : τ) (result : Ending × Connection × τ) :
    Prop where
  ending : result.1 = match violation router c.messages c.flaw s with
    | some v => .violated v.1
    | none => if c.stop.isSome then .idle else .left
  sent : ∃ w, Message.OnWire ((replies router c.messages c.flaw s).map Reply.toMessage) w ∧
    result.2.1.stream.sent = c.stream.sent ++ w
  state : result.2.2 =
    dispatchAll router (requests (c.messages.take (good router c.messages s + 1))) s

section
variable {router : Router τ} {c c₁ c₂ : Connection} {s s₁ : τ} {m : Message} {r : Reply}

/-- A session that turns the peer away. -/
theorem follows_reject {e : ServiceError} {text : String} (hw : c.stream.Writable)
    (ht : turn router c s = (reject e text c.receive.2, s₁))
    (hv : violation router c.messages c.flaw s = some (e, text))
    (hr : replies router c.messages c.flaw s = [.error (.protocol text)])
    (hs : s₁ = dispatchAll router (requests (c.messages.take (good router c.messages s + 1))) s)
    (hfit : ∀ r ∈ replies router c.messages c.flaw s, r.toMessage.Fits c.limit) :
    Follows router c s (run router c s) := by
  obtain ⟨c', w, hsend, -, -, -, -, hwire, hsent⟩ :=
    deliver_spec (c := c.receive.2) (Connection.writable_receive hw) (hfit (.error (.protocol text)) (by simp [hr]))
  rw [reject, hsend] at ht
  rw [run_of_end ht]
  refine ⟨by rw [hv], ⟨w, ?_, hsent⟩, hs⟩
  rw [hr]; exact .single hwire

/-- A header that cannot be read is the first thing that is wrong. -/
theorem follows_flaw {e : WireError} (hw : c.stream.Writable)
    (hd : Message.decode c.limit c.ahead = .error e)
    (hfit : ∀ r ∈ replies router c.messages c.flaw s, r.toMessage.Fits c.limit) :
    Follows router c s (run router c s) := by
  have hms : c.messages = [] := by rw [Connection.messages, Message.decodeAll_of_error hd]
  have hflaw : c.flaw = some e := by rw [Connection.flaw, Message.decodeAll_of_error hd]
  have hreceive := Connection.receive_ahead c
  rw [hd] at hreceive
  obtain ⟨hc, ht⟩ := Message.decode_error hd
  refine follows_reject hw (turn_flaw hreceive hc ht) ?_ ?_ ?_ hfit
  · rw [hms, hflaw]; rfl
  · rw [hms, hflaw]; rfl
  · rw [hms]; rfl

/-- Nothing more comes. -/
theorem follows_stop (hd : Message.decode c.limit c.ahead = .ok none)
    (hstop : ∀ e, c.stop = some e → e.isTimeout = true) : Follows router c s (run router c s) := by
  have hms : c.messages = [] := by rw [Connection.messages, Message.decodeAll_of_none hd]
  have hflaw : c.flaw = none := by rw [Connection.flaw, Message.decodeAll_of_none hd]
  have hreceive := Connection.receive_ahead c
  rw [hd] at hreceive
  rw [run_of_end (turn_stop hreceive hstop)]
  refine ⟨?_, ⟨[], ?_, (List.append_nil _).symm⟩, ?_⟩
  · rw [hms, hflaw]; rfl
  · rw [hms, hflaw]; rfl
  · rw [hms]; rfl

/-- After a message that is answered the session is the one that begins behind it. -/
theorem Follows.cons {w : Bytes} {result : Ending × Connection × τ}
    (hms : c.messages = m :: c₁.messages) (hflaw : c.flaw = c₁.flaw) (hstop : c.stop = c₁.stop)
    (hv : (answer router m s).1.violation? = none) (hr : (answer router m s).1.reply? = some r)
    (hwire : r.toMessage.encode = .ok w) (hsent : c₁.stream.sent = c.stream.sent ++ w)
    (h : Follows router c₁ (answer router m s).2 result) : Follows router c s result := by
  refine ⟨?_, ?_, ?_⟩
  · rw [hms, hflaw, hstop, violation_cons hv]; exact h.ending
  · obtain ⟨w', hwire', hsent'⟩ := h.sent
    refine ⟨w ++ w', ?_, ?_⟩
    · rw [hms, hflaw, replies_cons hv hr, List.map_cons]
      exact ⟨w, w', hwire, rfl, hwire'⟩
    · rw [hsent', hsent, List.append_assoc]
  · rw [hms, good_cons hv, dispatchAll_requests_cons]; exact h.state

end

/-- **A session follows the messages of its peer**, if no handler crashes, the stream gives out by its end
or a deadline, and the peer takes every reply. -/
theorem run_follows {router : Router τ} (hret : router.Returns) {c : Connection} {s : τ}
    (hstop : ∀ e, c.stop = some e → e.isTimeout = true) (hw : c.stream.Writable)
    (hfit : ∀ r ∈ replies router c.messages c.flaw s, r.toMessage.Fits c.limit) :
    Follows router c s (run router c s) := by
  -- the session that goes on after a reply has the messages behind the first one
  induction hms : c.messages generalizing c s with
  | nil =>
    cases hd : Message.decode c.limit c.ahead with
    | error e => exact follows_flaw hw hd hfit
    | ok o =>
      cases o with
      | none => exact follows_stop hd hstop
      | some p => rw [Connection.messages, Message.decodeAll_of_some hd] at hms; cases hms
  | cons m ms ih =>
    have hreceive := Connection.receive_ahead c
    obtain ⟨rest, hd⟩ := Message.decode_of_decodeAll_cons hms
    rw [hd] at hreceive
    obtain ⟨hm, hahead, hstop₁⟩ := hreceive
    rcases (answer router m s).1.reply?_or_violation? (answer_ne_crashed hret) with
      ⟨r, hr, hv⟩ | ⟨e, hv, hr, -⟩
    · have hfits : r.toMessage.Fits c.limit := hfit r (by rw [hms, replies_cons hv hr]; exact .head _)
      obtain ⟨c₁, w, hsend, hlimit, hahead₁, hstop₂, hw₁, hwire, hsent⟩ :=
        deliver_spec (c := c.receive.2) (Connection.writable_receive hw) hfits
      have hall : Message.decodeAll c₁.limit c₁.ahead = Message.decodeAll c.limit rest := by
        rw [hlimit, hahead₁, hahead]; rfl
      have hms₁ : c₁.messages = ms := by
        rw [Connection.messages, Message.decodeAll_of_some hd] at hms
        rw [Connection.messages, hall]; exact (List.cons.inj hms).2
      have hflaw₁ : c.flaw = c₁.flaw := by
        rw [Connection.flaw, Connection.flaw, Message.decodeAll_of_some hd, hall]
      have hstop₃ : c.stop = c₁.stop := by rw [hstop₂, hstop₁]
      have hrun : run router c s = run router c₁ (answer router m s).2 :=
        run_of_turn (by rw [turn_reply hm hr, deliver, hsend])
      rw [hrun]
      refine .cons (by rw [hms, hms₁]) hflaw₁ hstop₃ hv hr hwire hsent (ih (hstop₃ ▸ hstop) hw₁ ?_ hms₁)
      intro r' hr'
      rw [hlimit]
      refine hfit r' ?_
      rw [hms, hflaw₁, replies_cons hv hr, ← hms₁]
      exact .tail _ hr'
    · refine follows_reject hw (turn_violation hm hv) ?_ ?_ ?_ hfit
      · rw [hms]; exact violation_cons_of_violation hv
      · rw [hms]; exact replies_cons_of_violation hv
      · rw [hms, good_cons_of_violation hv, dispatchAll_requests_cons]; rfl

end Session
end FrameFeed
