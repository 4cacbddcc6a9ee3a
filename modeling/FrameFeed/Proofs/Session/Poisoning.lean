import FrameFeed.Feed.Pattern
import FrameFeed.Feed.Scripted
import FrameFeed.Proofs.Session.Parting
/-!
# A crash of the source

The router of a source answers a request from the source by one call of it (`dispatch_of_asksSource`), and any other
one from the sink alone (`exists_aside`). After a crash the calls are not made any more; whoever asks is told so,
and the session goes on. All other requests are answered as if the source had never crashed, and the sink gets the
same results (`crash_ends_one_session`).
-/
namespace FrameFeed

variable {σ τ κ : Type} {s : Service σ κ} {q : Request}

/-- The request is answered from the source: it is for metadata or a frame, or for an action that its body tells. -/
def Request.asksSource (q : Request) : Bool :=
  match q.type with
  | .ok .metadata | .ok .frame => true
  | .ok .execute =>
    match q.body.map ActionBody.ofMembers with
    | some (.ok _) => true
    | _ => false
  | _ => false

/-- What a sink makes of a result that it is sent, with its answer. -/
def ResultsSink.take [ResultsSink κ] (ms : Json.Members) (k : κ) : Answer × κ :=
  match ResultsSink.send ms k with
  | (.ok (), k) => (.reply .ack, k)
  | (.error e, k) => (.failed (.source e), k)

theorem ResultsSink.take_ne_crashed [ResultsSink κ] (ms : Json.Members) (k : κ) : (take ms k).1 ≠ .crashed := by
  unfold take
  split <;> exact nofun

namespace Service

variable {α : Type}

theorem answerResult_some [ResultsSink κ] (ms : Json.Members) (s : Service σ κ) :
    answerResult (some ms) s = ((ResultsSink.take ms s.sink).1, { s with sink := (ResultsSink.take ms s.sink).2 }) := by
  dsimp only [ResultsSink.take, answerResult]
  obtain ⟨_ | _, k⟩ := ResultsSink.send ms s.sink <;> rfl

theorem sink_call (f : σ → Call α × σ) (s : Service σ κ) : (s.call f).2.sink = s.sink := by
  unfold call
  split
  · rfl
  · split <;> rfl

/-- A service stays poisoned, and a call that crashes makes it so. -/
theorem poisoned_call {f : σ → Call α × σ} (h : s.poisoned = true ∨ (s.call f).1 = .crashed) :
    (s.call f).2.poisoned = true := by
  unfold call at h ⊢
  split
  · next hpoisoned => exact hpoisoned
  · next hwell =>
    rw [if_neg hwell] at h
    split at h
    · exact absurd (h.resolve_right nofun) hwell
    · rfl

end Service

theorem Call.answer_eq_crashed {α : Type} {reply : α → Reply} {r : Call α} (h : r.answer reply = .crashed) :
    r = .crashed := by
  cases r with
  | crashed => rfl
  | returned r => cases r <;> cases h

namespace Router

variable [FrameSource σ] [ResultsSink κ]

/-! ## What a request comes to -/

theorem dispatch_of_type (sink : Bool) {t : RequestType} (h : q.type = .ok t) (s : Service σ κ) :
    (ofSource sink).dispatch q s = sourceHandler sink t q.body s := by
  rw [dispatch, RequestType.ofName?_eq_ok h, handler?_ofSource]

/-- A request that asks the source comes to one call of it. -/
theorem dispatch_of_asksSource (sink : Bool) (h : q.asksSource = true) :
    ∃ (α : Type) (f : σ → Call α × σ) (reply : α → Reply), ∀ s : Service σ κ,
      (ofSource sink).dispatch q s = ((s.call f).1.answer reply, (s.call f).2) := by
  unfold Request.asksSource at h
  split at h
  · next htype => exact ⟨_, FrameSource.metadata, fun m => .json m.toJson, dispatch_of_type sink htype⟩
  · next htype => exact ⟨_, Service.advance, .binary, dispatch_of_type sink htype⟩
  · next htype =>
    split at h
    · next b hbody =>
      obtain ⟨ms, hms, hb⟩ := Option.map_eq_some_iff.1 hbody
      refine ⟨_, FrameSource.execute b.action, fun _ => .ack, fun s => ?_⟩
      rw [dispatch_of_type sink htype, hms]
      simp only [sourceHandler, Service.answerExecute, hb]
    · cases h
  · cases h

/-- Whatever the source, this is what the sink makes of the request, and it is all that the request changes. -/
structure Aside (sink : Bool) (q : Request) (f : κ → Answer × κ) : Prop where
  returns : ∀ k, (f k).1 ≠ .crashed
  dispatch : ∀ {σ : Type} [FrameSource σ] (s : Service σ κ),
    (ofSource sink).dispatch q s = ((f s.sink).1, { s with sink := (f s.sink).2 })

theorem Aside.of_failed {sink : Bool} {e : ServiceError}
    (h : ∀ (σ : Type) [FrameSource σ] (s : Service σ κ), (ofSource sink).dispatch q s = (.failed e, s)) :
    Aside sink q fun k : κ => (.failed e, k) := ⟨fun _ => nofun, fun s => h _ s⟩

/-- A request that does not ask the source is answered from the sink alone. -/
theorem exists_aside (sink : Bool) (h : q.asksSource = false) : ∃ f : κ → Answer × κ, Aside sink q f := by
  unfold Request.asksSource at h
  cases htype : q.type with
  | error e =>
    obtain ⟨rfl, hunknown⟩ := RequestType.ofName?_eq_error htype
    refine ⟨_, .of_failed (e := .unknownRequest q.tag) fun σ _ s => ?_⟩
    rw [dispatch, handler?_ofSource_none sink hunknown]
  | ok t =>
    rw [htype] at h
    cases t with
    | metadata | frame => cases h
    | execute =>
      cases hbody : q.body with
      | none => exact ⟨_, .of_failed fun σ _ s => by rw [dispatch_of_type sink htype, hbody]; rfl⟩
      | some ms =>
        cases haction : ActionBody.ofMembers ms with
        | ok b => simp [hbody, haction] at h
        | error e =>
          refine ⟨_, .of_failed (e := .malformed (RequestType.execute.name ++ " body: " ++ e.message)) fun σ _ s => ?_⟩
          rw [dispatch_of_type sink htype, hbody]
          simp only [sourceHandler, Service.answerExecute, haction]
    | result =>
      cases sink with
      | false => exact ⟨_, .of_failed fun σ _ s => dispatch_of_type false htype s⟩
      | true =>
        cases hbody : q.body with
        | none => exact ⟨_, .of_failed fun σ _ s => by rw [dispatch_of_type true htype, hbody]; rfl⟩
        | some ms =>
          refine ⟨ResultsSink.take ms, ResultsSink.take_ne_crashed ms, fun s => ?_⟩
          rw [dispatch_of_type true htype, hbody]
          exact Service.answerResult_some ms s

/-! ## One request -/

/-- A service stays poisoned, and a request that crashes makes it so. -/
theorem poisoned_dispatch {sink : Bool}
    (h : s.poisoned = true ∨ ((ofSource sink).dispatch q s).1 = .crashed) :
    ((ofSource sink).dispatch q s).2.poisoned = true := by
  cases hasks : q.asksSource with
  | true =>
    obtain ⟨α, f, reply, hdispatch⟩ := dispatch_of_asksSource (σ := σ) (κ := κ) sink hasks
    rw [hdispatch] at h ⊢
    exact Service.poisoned_call (h.imp_right Call.answer_eq_crashed)
  | false =>
    obtain ⟨f, haside⟩ := exists_aside (κ := κ) sink hasks
    rw [haside.dispatch] at h ⊢
    exact h.resolve_right (haside.returns s.sink)

/-- Nobody calls a source that crashed; who asks for it is told so. -/
theorem dispatch_of_poisoned (sink : Bool) (h : s.poisoned = true) (hasks : q.asksSource = true) :
    (ofSource sink).dispatch q s = (.failed (.source .poisoned), s) := by
  obtain ⟨α, f, reply, hdispatch⟩ := dispatch_of_asksSource (σ := σ) (κ := κ) sink hasks
  rw [hdispatch, Service.call_poisoned f s h]
  rfl

theorem dispatch_ne_crashed (sink : Bool) (h : s.poisoned = true) (q : Request) :
    ((ofSource sink).dispatch q s).1 ≠ .crashed := by
  cases hasks : q.asksSource with
  | true =>
    rw [dispatch_of_poisoned sink h hasks]
    exact nofun
  | false =>
    obtain ⟨f, haside⟩ := exists_aside (κ := κ) sink hasks
    rw [haside.dispatch]
    exact haside.returns s.sink

/-- What is wrong with a request is its answer, whatever became of the source. -/
theorem dispatch_of_fault {sink : Bool} {e : ServiceError} (h : q.fault? sink = some e) :
    ((ofSource sink).dispatch q s).1 = .failed e := by
  rw [← violation?_dispatch_ofSource sink q s] at h
  exact (Session.endsSession_of_violation? h).1

/-- A result goes to the sink, whatever became of the source. -/
theorem dispatch_result (ms : Json.Members) (s : Service σ κ) : (ofSource true).dispatch (.result ms) s =
    ((ResultsSink.take ms s.sink).1, { s with sink := (ResultsSink.take ms s.sink).2 }) := by
  have htype : (Request.result ms).type = .ok .result := RequestType.ofName?_name .result
  rw [dispatch_of_type true htype]
  exact Service.answerResult_some ms s

/-- Two services with the same sink answer a request alike that does not ask the source. -/
theorem dispatch_eq_of_sink_eq [FrameSource τ] (sink : Bool) {t : Service τ κ} (h : s.sink = t.sink)
    (hasks : q.asksSource = false) : ((ofSource sink).dispatch q s).1 = ((ofSource sink).dispatch q t).1 := by
  obtain ⟨f, haside⟩ := exists_aside (κ := κ) sink hasks
  rw [haside.dispatch, haside.dispatch, h]

/-- What becomes of the sink does not depend on the source. -/
theorem sink_dispatch [FrameSource τ] (sink : Bool) {t : Service τ κ} (h : s.sink = t.sink) (q : Request) :
    ((ofSource sink).dispatch q s).2.sink = ((ofSource sink).dispatch q t).2.sink := by
  cases hasks : q.asksSource with
  | true =>
    obtain ⟨_, f, _, hs⟩ := dispatch_of_asksSource (σ := σ) (κ := κ) sink hasks
    obtain ⟨_, g, _, ht⟩ := dispatch_of_asksSource (σ := τ) (κ := κ) sink hasks
    rw [hs, ht, Service.sink_call, Service.sink_call, h]
  | false =>
    obtain ⟨f, haside⟩ := exists_aside (κ := κ) sink hasks
    rw [haside.dispatch, haside.dispatch, h]

end Router

/-! ## All requests -/

namespace Session

open Router (ofSource)

variable [FrameSource σ] [ResultsSink κ]

theorem dispatchAll_append {α : Type} (router : Router α) (before after : List Request) (s : α) :
    dispatchAll router (before ++ after) s = dispatchAll router after (dispatchAll router before s) :=
  List.foldl_append

theorem poisoned_dispatchAll (sink : Bool) (h : s.poisoned = true) (qs : List Request) :
    (dispatchAll (ofSource sink) qs s).poisoned = true := by
  induction qs generalizing s with
  | nil => exact h
  | cons q qs ih => exact ih (Router.poisoned_dispatch (.inl h))

theorem sink_dispatchAll [FrameSource τ] (sink : Bool) {t : Service τ κ} (h : s.sink = t.sink) (qs : List Request) :
    (dispatchAll (ofSource sink) qs s).sink = (dispatchAll (ofSource sink) qs t).sink := by
  induction qs generalizing s t with
  | nil => exact h
  | cons q qs ih => exact ih (Router.sink_dispatch sink h q)

/-- **A source that crashes ends one session and fails for all others.** Once a request came to a crash, which ends
its session, whatever was and is asked before and after it, in any sessions: a request for metadata or a frame, or
one to execute an action that it tells, leaves everything as it is, the source included, and is answered that the
lock of the source is poisoned; a session goes on after that. What is wrong with a request is answered as ever, and
no request crashes again. Results go to the sink, whatever it is, if there is one. With any other source that was
asked the same, the sink would be the same, and so would the answers to requests that do not ask the source. -/
theorem crash_ends_one_session {sink : Bool} {s : Service σ κ} {before : List Request} {q : Request}
    (hcrash : ((ofSource sink).dispatch q (dispatchAll (ofSource sink) before s)).1 = .crashed)
    (after : List Request) :
    let router : Router (Service σ κ) := ofSource sink
    let later := dispatchAll router (before ++ q :: after) s
    (∀ p, p.asksSource = true → router.dispatch p later = (.failed (.source .poisoned), later)) ∧
    (∀ p e, p.fault? sink = some e → (router.dispatch p later).1 = .failed e) ∧
    (∀ p, (router.dispatch p later).1 ≠ .crashed) ∧
    (sink = true → ∀ ms, router.dispatch (.result ms) later =
      ((ResultsSink.take ms later.sink).1, { later with sink := (ResultsSink.take ms later.sink).2 })) ∧
    (∀ (τ : Type) [FrameSource τ] (source : τ),
      let other : Service τ κ := dispatchAll (ofSource sink) (before ++ q :: after) { source, sink := s.sink }
      later.sink = other.sink ∧
      ∀ p, p.asksSource = false → (router.dispatch p later).1 = ((ofSource sink).dispatch p other).1) ∧
    (∀ (c : Connection) (m : Message) (p : Request), c.receive.1 = .ok m → Request.ofMessage m = .ok p →
      p.asksSource = true →
      let told : Message := (Reply.error (.ofFrameError .poisoned)).toMessage
      told.Fits c.limit → streamFailed (c.receive.2.send told).1 = false →
      turn router c later = ((none, (c.receive.2.send told).2), later)) ∧
    (∀ (c : Connection) (m : Message), c.receive.1 = .ok m → Request.ofMessage m = .ok q →
      turn router c (dispatchAll router before s) =
        ((some .crashed, c.receive.2), dispatchAll router (before ++ [q]) s)) := by
  intro router later
  have hlater : later = dispatchAll router after (router.dispatch q (dispatchAll router before s)).2 :=
    dispatchAll_append router before (q :: after) s
  have hpoisoned : later.poisoned = true := by
    rw [hlater]
    exact poisoned_dispatchAll sink (Router.poisoned_dispatch (.inr hcrash)) after
  refine ⟨fun p => Router.dispatch_of_poisoned sink hpoisoned, fun p e => Router.dispatch_of_fault,
    Router.dispatch_ne_crashed sink hpoisoned, ?_, ?_, ?_, ?_⟩
  · rintro rfl ms
    exact Router.dispatch_result ms later
  · intro τ _ source other
    have hsink : later.sink = other.sink :=
      sink_dispatchAll (s := s) (t := { source, sink := s.sink }) sink rfl (before ++ q :: after)
    exact ⟨hsink, fun p => Router.dispatch_eq_of_sink_eq sink hsink⟩
  · intro c m p hm hp hasks told hfits hsent
    have hanswer : answer router m later = (.failed (.source .poisoned), later) := by
      rw [answer_of_ok hp]
      exact Router.dispatch_of_poisoned sink hpoisoned hasks
    have hreply : (answer router m later).1.reply? = some (.error (.ofFrameError .poisoned)) := by
      rw [hanswer]
      rfl
    obtain ⟨hturn, -⟩ := turn_goes_on hm hreply hfits hsent
    rw [hturn, hanswer]
  · intro c m hm hq
    have hanswer : answer router m (dispatchAll router before s) = router.dispatch q (dispatchAll router before s) :=
      answer_of_ok hq
    rw [turn_crashed hm (by rw [hanswer]; exact hcrash), hanswer, dispatchAll_append]
    rfl

/-- A script that crashes at the second frame, with a sink that takes results before and after it. -/
theorem crash_ends_one_session_of_script :
    let result (n : Int) : Request := .result [("n", .num (.int n))]
    let router : Router (Service ScriptedSource) := ofSource true
    let script : Service ScriptedSource :=
      { source := { metadata := .error .timeout, cues := [.frame [7] none, .crash, .frame [8] none] }, sink := {} }
    let before : List Request := [.frame, result 1]
    let later := dispatchAll router (before ++ .frame :: [.frame, ⟨"execute", none⟩, result 2]) script
    (router.dispatch .frame (dispatchAll router before script)).1 = .crashed ∧
    router.dispatch .frame later = (.failed (.source .poisoned), later) ∧
    router.dispatch (.execute "reset") later = (.failed (.source .poisoned), later) ∧
    (router.dispatch ⟨"execute", none⟩ later).1 = .failed (.malformed "execute request without a body") ∧
    later.sink.received = [[("n", .num (.int 1))], [("n", .num (.int 2))]] := by
  intro result router script before later
  have hcrash : (router.dispatch .frame (dispatchAll router before script)).1 = .crashed := rfl
  obtain ⟨hasks, hfault, -, -, hother, -⟩ := crash_ends_one_session hcrash [.frame, ⟨"execute", none⟩, result 2]
  have hpattern := (hother PatternSource { metadata := default, pattern := .ramp }).1
  exact ⟨hcrash, hasks .frame rfl, hasks (.execute "reset") (by decide +kernel), hfault ⟨"execute", none⟩ _ rfl,
    (congrArg Sink.received hpattern).trans rfl⟩

end Session
end FrameFeed
