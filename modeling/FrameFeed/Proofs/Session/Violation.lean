import FrameFeed.Exchange.Service
import FrameFeed.Proofs.Session.Course
/-!
# Violations

A message violates the protocol if it is not JSON, if it cannot be read as a request, if nobody answers
its tag, or if its handler fails with an error that ends a session (`Violates`). The router of a source
lets every failure of the source pass, so only the shape of a request matters to it
(`violates_ofSource_iff`). `run_answers_until_violation` tells a whole session in these terms.
-/
namespace FrameFeed

variable {σ τ : Type}

namespace Session

/-! ## What makes a violation -/

/-- The message is a violation when it is answered in this state, and this is the error. -/
inductive Violates (router : Router τ) (m : Message) (s : τ) : ServiceError → Prop
  | binary : m.kind = .binary → Violates router m s (.malformed "requests must be JSON messages")
  | unreadable {e : Json.Fault} : m.kind = .json → Request.decoder.parse m.payload = .error e →
      Violates router m s (.malformed (e.message ++ (Request.decoder.position m.payload e).text))
  | unanswered {q : Request} : Request.ofMessage m = .ok q → router.handler? q.tag = none →
      Violates router m s (.unknownRequest q.tag)
  | failed {q : Request} {h : Handler τ} {e : ServiceError} : Request.ofMessage m = .ok q →
      router.handler? q.tag = some h → (h q.body s).1 = .returned (.error e) → e.endsSession = true →
      Violates router m s e

section
variable {router : Router τ} {m : Message} {s : τ} {q : Request} {e : ServiceError}

theorem answer_of_ok (h : Request.ofMessage m = .ok q) : answer router m s = router.dispatch q s := by
  rw [answer, h]

theorem answer_of_error (h : Request.ofMessage m = .error e) : answer router m s = (.failed e, s) := by
  rw [answer, h]

/-- A message that cannot be read as a request is a violation in every state. -/
theorem violates_of_ofMessage_error (h : Request.ofMessage m = .error e) : Violates router m s e := by
  unfold Request.ofMessage at h
  split at h
  · rename_i hk
    cases h; exact .binary hk
  · rename_i hk
    split at h
    · cases h
    · rename_i f hf
      cases h; exact .unreadable hk hf

theorem violation?_of_endsSession (h : e.endsSession = true) :
    (Answer.returned (.error e)).violation? = some e := by
  cases e with
  | source e => cases h
  | _ => rfl

theorem endsSession_of_violation? {a : Answer} (h : a.violation? = some e) :
    a = .returned (.error e) ∧ e.endsSession = true := by
  unfold Answer.violation? at h
  split at h
  · cases h
  · rename_i e' hne
    cases h
    refine ⟨rfl, ?_⟩
    cases e with
    | source f => exact absurd rfl (hne f)
    | _ => rfl
  · cases h


theorem violates_iff : Violates router m s e ↔ (answer router m s).1.violation? = some e := by
  constructor
  · intro h
    cases h with
    | binary hk =>
      rw [answer_of_error (by rw [Request.ofMessage, hk])]; rfl
    | unreadable hk hf =>
      simp only [answer, Request.ofMessage, hk, hf]; rfl
    | unanswered hq hn =>
      rw [answer_of_ok hq, Router.dispatch, hn]; rfl
    | failed hq hh hf he =>
      rw [answer_of_ok hq, Router.dispatch, hh]
      simp only [hf]
      exact violation?_of_endsSession he
  · intro h
    cases hq : Request.ofMessage m with
    | error f =>
      rw [answer_of_error hq] at h
      obtain ⟨hf, -⟩ := endsSession_of_violation? h
      cases hf
      exact violates_of_ofMessage_error hq
    | ok q =>
      rw [answer_of_ok hq, Router.dispatch] at h
      cases hh : router.handler? q.tag with
      | none =>
        rw [hh] at h
        cases h; exact .unanswered hq hh
      | some handler =>
        simp only [hh] at h
        obtain ⟨hf, he⟩ := endsSession_of_violation? h
        exact .failed hq hh hf he

/-- A turn that ends with a violation. -/
theorem turn_violated {c : Connection} (h : (turn router c s).1.1 = some (.violated e)) :
    (∃ f, e = .wire f) ∨ ∃ m ∈ c.messages, Violates router m s e := by
  rcases turn_cases router c s with
    ⟨m, r, -, -, hturn⟩ | ⟨m, e', hm, he, hturn⟩ | ⟨f, hturn⟩ | ⟨ending, hturn, hne⟩ <;> rw [hturn] at h
  · unfold deliver at h
    split at h <;> cases h
  · cases h
    rw [Connection.messages_of_receive hm]
    exact .inr ⟨m, .head _, violates_iff.2 he⟩
  · cases h
    exact .inl ⟨f, rfl⟩
  · cases h
    exact absurd rfl (hne e)

/-- A session that ends with a violation was sent a message that is one, unless a header could not be read. -/
theorem run_violated {c : Connection} (h : (run router c s).1 = .violated e) :
    (∃ f, e = .wire f) ∨ ∃ m ∈ c.messages, ∃ t, Violates router m t e := by
  fun_induction run router c s with
  | case1 c s ending c' s' hturn =>
    rcases turn_violated (by rw [hturn]; exact congrArg some h) with hwire | ⟨m, hm, hviolates⟩
    · exact .inl hwire
    · exact .inr ⟨m, hm, s, hviolates⟩
  | case2 c s c' s' hturn ih =>
    obtain ⟨m, hms⟩ := messages_of_turn hturn
    rw [hms]
    rcases ih h with hwire | ⟨l, hl, hviolates⟩
    · exact .inl hwire
    · exact .inr ⟨l, .tail _ hl, hviolates⟩

end

end Session

/-! ## The router of a source -/

/-- What the router of a source finds wrong with a request. With a sink, a result needs a body too. -/
def Request.fault? (sink : Bool) (q : Request) : Option ServiceError :=
  match q.type with
  | .error e => some e
  | .ok .metadata | .ok .frame => none
  | .ok .execute =>
    match q.body with
    | none => some (Service.bodyless .execute)
    | some ms =>
      match ActionBody.ofMembers ms with
      | .error e => some (.malformed (RequestType.execute.name ++ " body: " ++ e.message))
      | .ok _ => none
  | .ok .result => if sink = true ∧ q.body = none then some (Service.bodyless .result) else none

/-- Whatever a call to a source comes to, it is no violation. -/
theorem Call.violation?_answer {α : Type} (reply : α → Reply) (r : Call α) :
    (r.answer reply).violation? = none := by
  cases r with
  | crashed => rfl
  | returned r => cases r <;> rfl

namespace RequestType

theorem ofName?_eq_ok {tag : String} {t : RequestType} (h : ofName? tag = .ok t) : tag = t.name := by
  unfold ofName? at h
  split at h
  · rename_i hf
    cases h
    have := List.find?_some hf
    exact (of_decide_eq_true this).symm
  · cases h

theorem ofName?_eq_error {tag : String} {e : ServiceError} (h : ofName? tag = .error e) :
    e = .unknownRequest tag ∧ ∀ t : RequestType, t.name ≠ tag := by
  unfold ofName? at h
  split at h
  · cases h
  · rename_i hf
    cases h
    refine ⟨rfl, fun t => ?_⟩
    have := List.find?_eq_none.1 hf t (by cases t <;> decide)
    simpa using this

end RequestType

namespace Router

variable {κ : Type} [FrameSource σ] [ResultsSink κ]

/-- The handler that the router of a source has for a type of request. -/
def sourceHandler (sink : Bool) : RequestType → Handler (Service σ κ)
  | .metadata => Service.answerMetadata
  | .frame => Service.answerFrame
  | .execute => Service.answerExecute
  | .result => if sink then Service.answerResult else Service.refuseResult

/-- The router of a source, with a sink or without one. -/
def ofSource (sink : Bool) : Router (Service σ κ) := if sink then forSource.withSink else forSource

theorem handler?_ofSource (sink : Bool) (t : RequestType) :
    (ofSource sink : Router (Service σ κ)).handler? t.name = some (sourceHandler sink t) := by
  cases sink <;> cases t <;> rfl

theorem handler?_ofSource_none (sink : Bool) {tag : String} (h : ∀ t : RequestType, t.name ≠ tag) :
    (ofSource sink : Router (Service σ κ)).handler? tag = none := by
  have hm := h .metadata
  have hf := h .frame
  have he := h .execute
  have hr := h .result
  cases sink
  · simp only [ofSource, Bool.false_eq_true, if_false, forSource]
    rw [handler?_route_ne _ _ hr.symm, handler?_route_ne _ _ he.symm, handler?_route_ne _ _ hf.symm,
      handler?_route_ne _ _ hm.symm]
    rfl
  · simp only [ofSource, if_true, withSink, forSource]
    rw [handler?_route_ne _ _ hr.symm, handler?_route_ne _ _ hr.symm, handler?_route_ne _ _ he.symm,
      handler?_route_ne _ _ hf.symm, handler?_route_ne _ _ hm.symm]
    rfl

theorem violation?_dispatch_ofSource (sink : Bool) (q : Request) (s : Service σ κ) :
    ((ofSource sink).dispatch q s).1.violation? = q.fault? sink := by
  unfold Request.fault?
  cases ht : q.type with
  | error e =>
    obtain ⟨rfl, hn⟩ := RequestType.ofName?_eq_error ht
    rw [dispatch, handler?_ofSource_none sink hn]; rfl
  | ok t =>
    rw [dispatch, RequestType.ofName?_eq_ok ht, handler?_ofSource]
    cases t with
    | metadata => exact Call.violation?_answer ..
    | frame => exact Call.violation?_answer ..
    | execute =>
      simp only [sourceHandler, Service.answerExecute]
      cases q.body with
      | none => rfl
      | some ms =>
        dsimp only
        cases ActionBody.ofMembers ms with
        | error e => rfl
        | ok b => exact Call.violation?_answer ..
    | result =>
      cases sink with
      | false => rfl
      | true =>
        simp only [sourceHandler, if_true, Service.answerResult]
        cases q.body with
        | none => rfl
        | some ms =>
          simp only [reduceCtorEq, and_false, if_false]
          split <;> rfl

end Router

namespace Session

/-- To the router of a source only the shape of a message matters. -/
theorem violates_ofSource_iff {κ : Type} [FrameSource σ] [ResultsSink κ] (sink : Bool) {m : Message}
    {s : Service σ κ} {e : ServiceError} : Violates (Router.ofSource sink) m s e ↔
      Request.ofMessage m = .error e ∨ ∃ q, Request.ofMessage m = .ok q ∧ q.fault? sink = some e := by
  rw [violates_iff]
  cases hq : Request.ofMessage m with
  | error f =>
    rw [violates_iff.1 (violates_of_ofMessage_error hq)]
    simp
  | ok q =>
    rw [answer_of_ok hq, Router.violation?_dispatch_ofSource]
    simp

/-! ## A session up to its first violation -/

/-- The answers to requests that are dispatched one after the other. -/
def answersTo (router : Router τ) : List Request → τ → List Answer
  | [], _ => []
  | q :: qs, s => (router.dispatch q s).1 :: answersTo router qs (router.dispatch q s).2

/-- These are the requests before the first violation, each with its reply; what follows is the first
violation, or nothing. -/
theorem exists_good_requests {router : Router τ} (hret : router.Returns) (ms : List Message)
    (flaw : Option WireError) (s : τ) :
    ∃ qs rs, (ms.take (good router ms s)).map Request.ofMessage = qs.map .ok ∧
      (answersTo router qs s).map Answer.reply? = rs.map some ∧
      replies router ms flaw s =
        rs ++ ((violation router ms flaw s).map fun v => Reply.error (.protocol v.2)).toList ∧
      requests (ms.take (good router ms s)) = qs ∧
      match ms[good router ms s]? with
      | some m => ∃ e, Violates router m (dispatchAll router qs s) e ∧
          violation router ms flaw s = some (e, e.message)
      | none => violation router ms flaw s = flaw.map fun e => (.wire e, e.message) := by
  -- a violation at the first message leaves nothing before it; otherwise the rest follows its reply
  induction ms generalizing s with
  | nil => exact ⟨[], [], rfl, rfl, rfl, rfl, rfl⟩
  | cons m ms ih =>
    rcases (answer router m s).1.reply?_or_violation? (answer_ne_crashed hret) with
      ⟨r, hr, hv⟩ | ⟨e, hv, -, -⟩
    · cases hq : Request.ofMessage m with
      | error f =>
        rw [violates_iff.1 (violates_of_ofMessage_error hq)] at hv
        cases hv
      | ok q =>
        obtain ⟨qs, rs, hqs, hrs, hreplies, hrequests, hnext⟩ := ih (router.dispatch q s).2
        rw [← answer_of_ok hq] at hqs hreplies hrequests hnext
        refine ⟨q :: qs, r :: rs, ?_, ?_, ?_, ?_, ?_⟩
        · rw [good_cons hv, List.take_succ_cons, List.map_cons, hqs, hq]; rfl
        · rw [answersTo, List.map_cons, hrs, ← answer_of_ok hq, hr]; rfl
        · rw [replies_cons hv hr, violation_cons hv, hreplies]; rfl
        · rw [good_cons hv, List.take_succ_cons, requests, List.filterMap_cons, hq]
          exact congrArg (q :: ·) hrequests
        · rw [good_cons hv, violation_cons hv, List.getElem?_cons_succ]
          rw [answer_of_ok hq] at hnext ⊢
          exact hnext
    · refine ⟨[], [], ?_, rfl, ?_, ?_, ?_⟩
      · rw [good_cons_of_violation hv]; rfl
      · rw [replies_cons_of_violation hv, violation_cons_of_violation hv]; rfl
      · rw [good_cons_of_violation hv]; rfl
      · rw [good_cons_of_violation hv, violation_cons_of_violation hv]
        exact ⟨e, violates_iff.2 hv, rfl⟩

theorem requests_take_add_one (ms : List Message) (n : Nat) :
    requests (ms.take (n + 1)) = requests (ms.take n) ++
      (ms[n]?.bind fun m => (Request.ofMessage m).toOption).toList := by
  rw [List.take_add_one, requests, List.filterMap_append]
  cases ms[n]? with
  | none => rfl
  | some m =>
    rw [Option.toList_some, List.filterMap_cons, Option.bind_some]
    cases (Request.ofMessage m).toOption <;> rfl

/-- **A session answers up to the first violation.** No handler crashes, the stream gives out by its end
or a deadline, and the peer takes every reply; then there are requests, the first messages of the peer,
that are dispatched in order, each answered by one reply. If a message follows, it is a violation; it is
dispatched if it is a request, and nothing behind it is (a router may note in its state all that it is
asked, so the state tells what was dispatched). The peer is told of the violation, or else of a header
that cannot be read; if there is neither, the session ends in good order and nothing more is written. To
a router of a source only the shape of a message makes a violation. -/
theorem run_answers_until_violation {router : Router τ} (hret : router.Returns) {c : Connection} {s : τ}
    (hstop : ∀ e, c.stop = some e → e.isTimeout = true) (hw : c.stream.Writable)
    (hfit : ∀ r ∈ replies router c.messages c.flaw s, r.toMessage.Fits c.limit) :
    (∃ j qs rs w, (c.messages.take j).map Request.ofMessage = qs.map .ok ∧
      (answersTo router qs s).map Answer.reply? = rs.map some ∧
      (run router c s).2.1.stream.sent = c.stream.sent ++ w ∧
      match c.messages[j]?, c.flaw with
      | some m, _ => ∃ e, Violates router m (dispatchAll router qs s) e ∧
          (run router c s).1 = .violated e ∧
          Message.OnWire ((rs ++ [Reply.error (.protocol e.message)]).map Reply.toMessage) w ∧
          (run router c s).2.2 = dispatchAll router (qs ++ (Request.ofMessage m).toOption.toList) s
      | none, some e => (run router c s).1 = .violated (.wire e) ∧
          Message.OnWire ((rs ++ [Reply.error (.protocol e.message)]).map Reply.toMessage) w ∧
          (run router c s).2.2 = dispatchAll router qs s
      | none, none => (run router c s).1 = (if c.stop.isSome then .idle else .left) ∧
          Message.OnWire (rs.map Reply.toMessage) w ∧
          (run router c s).2.2 = dispatchAll router qs s) ∧
    ∀ (σ κ : Type) [FrameSource σ] [ResultsSink κ] (sink : Bool) (m : Message) (t : Service σ κ) (e : ServiceError),
      Violates (Router.ofSource sink) m t e ↔
        Request.ofMessage m = .error e ∨ ∃ q, Request.ofMessage m = .ok q ∧ q.fault? sink = some e := by
  refine ⟨?_, fun σ κ _ _ sink m t e => violates_ofSource_iff sink⟩
  have hfollows := run_follows hret hstop hw hfit
  obtain ⟨w, hwire, hsent⟩ := hfollows.sent
  have hending := hfollows.ending
  have hstate := hfollows.state
  obtain ⟨qs, rs, hqs, hrs, hreplies, hrequests, hnext⟩ :=
    exists_good_requests hret c.messages c.flaw s
  refine ⟨good router c.messages s, qs, rs, w, hqs, hrs, hsent, ?_⟩
  rw [hreplies] at hwire
  rw [requests_take_add_one, hrequests] at hstate
  cases hm : c.messages[good router c.messages s]? with
  | some m =>
    rw [hm] at hnext hstate
    obtain ⟨e, hv, hviolation⟩ := hnext
    rw [hviolation] at hending hwire
    exact ⟨e, hv, hending, hwire, hstate⟩
  | none =>
    rw [hm] at hnext hstate
    rw [Option.bind_none, Option.toList_none, List.append_nil] at hstate
    cases hf : c.flaw with
    | some e =>
      rw [hf] at hnext hending hwire
      simp only [Option.map_some] at hnext
      rw [hnext] at hending hwire
      exact ⟨hending, hwire, hstate⟩
    | none =>
      rw [hf] at hnext hending hwire
      simp only [Option.map_none] at hnext
      rw [hnext] at hending hwire
      refine ⟨hending, ?_, hstate⟩
      rwa [Option.map_none, Option.toList_none, List.append_nil] at hwire

/-- A router that counts how often it is asked. -/
def tally : Router Nat := ({} : Router Nat).route "ping" fun _ n => (.reply .ack, n + 1)

/-- A peer that asks twice, in two reads that cut the second message, and then sends bytes. -/
def pinger : Connection :=
  let ping := 0x46 :: 0x57 :: 18 :: 0 :: 0 :: 0 :: 1 :: 0 :: Bytes.ofText "\x7b\"request\":\"ping\"\x7d"
  { stream := { arrivals :=
    [.data (ping ++ ping.take 5), .data (ping.drop 5 ++ [0x46, 0x57, 0, 0, 0, 0, 2, 0])] } }

/-- Both questions are answered; the third message is a violation and is not counted. -/
theorem run_tally_pinger :
    (run tally pinger 0).1 = .violated (.malformed "requests must be JSON messages") ∧
      (run tally pinger 0).2.2 = 2 ∧
      ∃ j qs rs w, (pinger.messages.take j).map Request.ofMessage = qs.map .ok ∧
        (answersTo tally qs 0).map Answer.reply? = List.map some rs ∧
        (run tally pinger 0).2.1.stream.sent = pinger.stream.sent ++ w := by
  have hret : tally.Returns := by
    intro tag h hh body n
    by_cases ht : tag = "ping"
    · rw [ht, tally, Router.handler?_route] at hh
      cases hh; exact nofun
    · rw [tally, Router.handler?_route_ne _ _ ht] at hh
      cases hh
  have hstop : ∀ e, pinger.stop = some e → e.isTimeout = true := nofun
  have hw : pinger.stream.Writable := ⟨nofun, rfl, nofun⟩
  have hfit : ∀ r ∈ replies tally pinger.messages pinger.flaw 0, r.toMessage.Fits pinger.limit := by
    decide +kernel
  obtain ⟨⟨j, qs, rs, w, hqs, hrs, hsent, -⟩, -⟩ := run_answers_until_violation hret hstop hw hfit
  exact ⟨by decide +kernel, by decide +kernel, j, qs, rs, w, hqs, hrs, hsent⟩

end Session
end FrameFeed
