import FrameFeed.Proofs.Exchange.Relay
import FrameFeed.Proofs.Network.Served
import Mathlib.Data.List.Forall2
/-!
# Results that are sent to a sink

A client hands results to a server, which hands them to its sink. What the sink makes of a result is not the
sender's concern, so that a rejection should be the same to it as an acceptance. It is, unless the sink fails with
a cause that the client also has for failures of the connection (`told`): those it takes for such failures, and
the sender is told. In any case the sink is given every result, in the order in which they were sent, and the
session goes on (`Client.sendAll_told`).
-/
namespace FrameFeed

variable {τ σ κ : Type}

/-! ## Sinks -/

/-- What a sink makes of a result, and what it comes to be. -/
abbrev Taker (τ : Type) := Json.Members → τ → Except FrameError Unit × τ

namespace Taker

/-- Answers requests that bring a result. -/
def handler (take : Taker τ) : Handler τ := fun body s =>
  match body with
  | none => (.failed (Service.bodyless .result), s)
  | some ms =>
    match take ms s with
    | (.ok (), s) => (.reply .ack, s)
    | (.error e, s) => (.failed (.source e), s)

/-- Hands one result after the other to a sink. -/
def takeAll (take : Taker τ) : List Json.Members → τ → List (Except FrameError Unit) × τ
  | [], s => ([], s)
  | ms :: rest, s =>
    let (outcome, s) := take ms s
    let (outcomes, s) := takeAll take rest s
    (outcome :: outcomes, s)

end Taker

/-- The sink that a source is served with. -/
def Service.taker [ResultsSink κ] : Taker (Service σ κ) := fun ms s =>
  ((ResultsSink.send ms s.sink).1, { s with sink := (ResultsSink.send ms s.sink).2 })

theorem Service.answerResult_eq [ResultsSink κ] :
    Service.answerResult = (Service.taker : Taker (Service σ κ)).handler := by
  funext body s
  cases body with
  | none => rfl
  | some ms =>
    simp only [Service.answerResult, Taker.handler, Service.taker]
    generalize ResultsSink.send ms s.sink = r
    obtain ⟨outcome, sink⟩ := r
    cases outcome <;> rfl

theorem Router.handler?_withSink [ResultsSink κ] (r : Router (Service σ κ)) :
    r.withSink.handler? RequestType.result.name = some Service.taker.handler := by
  rw [Router.withSink, Router.handler?_route, Service.answerResult_eq]

/-! ## What the sender is told -/

/-- What a session replies to a result. -/
def replyTo : Except FrameError Unit → Reply
  | .ok () => .ack
  | .error e => .error (.ofFrameError e)

/-- What the sender is told of what a sink made of its result. -/
def told : Except FrameError Unit → Except FrameError Unit
  | .error .timeout => .error .timeout
  | .error (.faulted detail) => .error (.faulted detail)
  | .error (.insufficientCapacity m capacity) => .error (.faulted
      ("peer reported insufficient capacity: " ++ (FrameError.insufficientCapacity m capacity).message))
  | _ => .ok ()

/-- The causes of which a sender is told. -/
def FrameError.isTold (e : FrameError) : Bool :=
  e.tag = "timeout" || e.tag = "faulted" || e.tag = "insufficientCapacity"

theorem told_eq_ok {e : FrameError} : told (.error e) = .ok () ↔ e.isTold = false := by
  cases e <;> simp [told, FrameError.isTold, FrameError.tag]

/-- Sends succeed just if there is nothing to tell the sender. -/
theorem all_told (outcomes : List (Except FrameError Unit)) :
    (∀ r ∈ outcomes.map told, r = .ok ()) ↔ ∀ e, .error e ∈ outcomes → e.isTold = false := by
  constructor
  · intro h e he
    exact told_eq_ok.1 (h _ (List.mem_map_of_mem he))
  · intro h r hr
    obtain ⟨outcome, houtcome, rfl⟩ := List.mem_map.1 hr
    cases outcome with
    | ok => rfl
    | error e => exact told_eq_ok.2 (h e houtcome)

namespace Client

/-- What `send` makes of the reply to a result. -/
theorem outcome_of_reply (outcome : Except FrameError Unit) :
    (match Reply.ofMessage (replyTo outcome).toMessage with
      | .ok _ => .ok ()
      | .error e => if isReply e then .ok () else .error e) = told outcome := by
  cases outcome with
  | ok => rw [replyTo, Reply.ofMessage_ack]; rfl
  | error e =>
    show (match e.heard with
      | .ok _ => .ok ()
      | .error e => if isReply e then .ok () else .error e) = told (.error e)
    by_cases hcapacity : e.tag = "insufficientCapacity"
    · cases e with
      | insufficientCapacity m capacity => rw [FrameError.heard_insufficientCapacity]; rfl
      | _ => simp [FrameError.tag] at hcapacity
    · rw [FrameError.heard_eq hcapacity]
      cases e with
      | insufficientCapacity => exact absurd rfl hcapacity
      | _ => rfl

/-! ## Sending -/

/-- Sends results, one after the other. -/
def sendAll [Channel σ] : List Json.Members → Client σ → List (Except FrameError Unit) × Client σ
  | [], c => ([], c)
  | body :: bodies, c =>
    let (r, c) := c.send body
    let (rs, c) := sendAll bodies c
    (r :: rs, c)

/-- A server reads the result that is sent with this body as one with that body. -/
def Arrives (body body' : Json.Members) : Prop :=
  Request.ofMessage (Request.result body).toMessage = .ok (Request.result body')

/-- A client between two calls, on a link whose session hands results to a sink. -/
structure Open (limit serverLimit : Nat) (take : Taker τ) (c : Client (Link τ)) : Prop where
  failure : c.failure = none
  owed : c.owed = none
  link : c.channel.Rests limit serverLimit
  handler : c.channel.server.router.handler? RequestType.result.name = some take.handler

variable {limit serverLimit : Nat} {take : Taker τ} {c : Client (Link τ)} {body body' : Json.Members}
variable {bodies bodies' : List Json.Members}

/-- The request that brings a result, and the reply. -/
def submission (take : Taker τ) (body body' : Json.Members) (s : τ) : List Message :=
  [(Request.result body).toMessage, (replyTo (take body' s).1).toMessage]

theorem answer_result {router : Router τ} (hrouter : router.handler? RequestType.result.name = some take.handler)
    (harrives : Arrives body body') (s : τ) :
    (Session.answer router (Request.result body).toMessage s).1.reply? = some (replyTo (take body' s).1) ∧
      (Session.answer router (Request.result body).toMessage s).2 = (take body' s).2 := by
  rw [Session.answer_of_ok harrives, Router.dispatch]
  simp only [Request.result, hrouter, Taker.handler]
  generalize take body' s = r
  obtain ⟨outcome, s'⟩ := r
  cases outcome <;> exact ⟨rfl, rfl⟩

/-- One result. -/
theorem Open.send (h : c.Open limit serverLimit take) (harrives : Arrives body body')
    (hfit : Fit limit serverLimit (submission take body body' c.channel.server.service)) :
    ∃ c', c.send body = (told (take body' c.channel.server.service).1, c') ∧ c'.Open limit serverLimit take ∧
      c'.channel.id = c.channel.id ∧ c'.channel.server.service = (take body' c.channel.server.service).2 := by
  obtain ⟨hreply, hstate⟩ := answer_result h.handler harrives c.channel.server.service
  obtain ⟨hq, hq'⟩ := hfit _ (.head _)
  obtain ⟨hr, hr'⟩ := hfit _ (.tail _ (.head _))
  obtain ⟨l, hrequest, hid, hrests, hservice, hbeside⟩ :=
    request_over_link h.failure h.owed (t := .result) rfl h.link hq hq' hreply hr hr'
  refine ⟨{ c with channel := l, owed := none }, ?_, ⟨h.failure, rfl, hrests, ?_⟩, hid, hservice.trans hstate⟩
  · have htold := outcome_of_reply (take body' c.channel.server.service).1
    rw [Client.send, hrequest]
    generalize Reply.ofMessage (replyTo (take body' c.channel.server.service).1).toMessage = heard at htold ⊢
    cases heard with
    | ok r => rw [← htold]
    | error e =>
      rw [← htold]
      by_cases he : isReply e = true <;> simp only [he, if_true, Bool.false_eq_true, if_false]
  · rw [hbeside.router]
    exact h.handler

/-- The requests that bring some results, and their replies. -/
def submissions (take : Taker τ) (bodies bodies' : List Json.Members) (s : τ) : List Message :=
  bodies.map (fun body => (Request.result body).toMessage) ++
    (take.takeAll bodies' s).1.map fun outcome => (replyTo outcome).toMessage

theorem fit_of_cons {s : τ}
    (hfit : Fit limit serverLimit (submissions take (body :: bodies) (body' :: bodies') s)) :
    Fit limit serverLimit (submission take body body' s) ∧
      Fit limit serverLimit (submissions take bodies bodies' (take body' s).2) := by
  constructor
  · intro m hm
    refine hfit m ?_
    simp only [submission, List.mem_cons, List.not_mem_nil, or_false] at hm
    rcases hm with rfl | rfl <;> simp [submissions, Taker.takeAll]
  · intro m hm
    refine hfit m ?_
    simp only [submissions, List.mem_append, List.mem_map] at hm
    rcases hm with ⟨sent, hsent, rfl⟩ | ⟨outcome, houtcome, rfl⟩
    · exact List.mem_append_left _ (List.mem_map_of_mem (.tail _ hsent))
    · exact List.mem_append_right _ (List.mem_map_of_mem (.tail _ houtcome))

/-- Some results. -/
theorem Open.sendAll (h : c.Open limit serverLimit take) (harrive : List.Forall₂ Arrives bodies bodies')
    (hfit : Fit limit serverLimit (submissions take bodies bodies' c.channel.server.service)) :
    ∃ c', c.sendAll bodies = ((take.takeAll bodies' c.channel.server.service).1.map told, c') ∧
      c'.Open limit serverLimit take ∧ c'.channel.id = c.channel.id ∧
      c'.channel.server.service = (take.takeAll bodies' c.channel.server.service).2 := by
  induction harrive generalizing c with
  | nil => exact ⟨c, rfl, h, rfl, rfl⟩
  | cons harrives _ ih =>
    obtain ⟨hhead, htail⟩ := fit_of_cons hfit
    obtain ⟨c₁, hsend, hopen, hid, hservice⟩ := h.send harrives hhead
    rw [← hservice] at htail
    obtain ⟨c₂, hrest, hopen₂, hid₂, hservice₂⟩ := ih hopen htail
    rw [hservice] at hrest hservice₂
    refine ⟨c₂, ?_, hopen₂, hid₂.trans hid, hservice₂⟩
    simp only [Client.sendAll, hsend, hrest]
    rfl

/-- A body that is read as it was written arrives as it was sent. -/
theorem Arrives.eq (h : Arrives body body') (hexact : (Request.result body).Exact) : body' = body := by
  rw [Arrives, Request.ofMessage_toMessage hexact] at h
  have hrequest := Except.ok.inj h
  simp only [Request.result, Request.mk.injEq, Option.some.injEq, true_and] at hrequest
  exact hrequest.symm

theorem arrive_of_exact (hexact : ∀ body ∈ bodies, (Request.result body).Exact) :
    List.Forall₂ Arrives bodies bodies :=
  List.forall₂_same.2 fun body hbody => Request.ofMessage_toMessage (hexact body hbody)

theorem eq_of_arrive (h : List.Forall₂ Arrives bodies bodies') (hexact : ∀ body ∈ bodies, (Request.result body).Exact) :
    bodies' = bodies := by
  induction h with
  | nil => rfl
  | cons harrives _ ih =>
    rw [harrives.eq (hexact _ (.head _)), ih fun body hbody => hexact body (.tail _ hbody)]

/-- **Results reach their sink.** Over a link on which nothing fails, whatever the sink makes of the results that
a client sends: it is given all of them, one after the other in the order in which they were sent, and the session
goes on. To send a result succeeds unless the sink fails with a cause of which the sender is told; then the
sender is told that cause, and the next result is sent all the same. Bodies that are read as they were written
are given to the sink as they were sent. -/
theorem sendAll_told (hopen : c.Open limit serverLimit take) (harrive : List.Forall₂ Arrives bodies bodies')
    (hfit : Fit limit serverLimit (submissions take bodies bodies' c.channel.server.service)) :
    let given := take.takeAll bodies' c.channel.server.service
    (c.sendAll bodies).1 = given.1.map told ∧
      ((∀ r ∈ (c.sendAll bodies).1, r = .ok ()) ↔ ∀ e, .error e ∈ given.1 → e.isTold = false) ∧
      (c.sendAll bodies).2.Open limit serverLimit take ∧ (c.sendAll bodies).2.channel.id = c.channel.id ∧
      (c.sendAll bodies).2.channel.server.service = given.2 ∧
      ((∀ body ∈ bodies, (Request.result body).Exact) → bodies' = bodies) := by
  intro given
  obtain ⟨c', hsend, hopen', hid, hservice⟩ := hopen.sendAll harrive hfit
  rw [hsend]
  exact ⟨rfl, all_told given.1, hopen', hid, hservice, eq_of_arrive harrive⟩

/-- A source that is served with a sink that goes by these verdicts. -/
def served (verdicts : List (Option FrameError)) : Service PatternSource where
  source := { metadata := ⟨.uint8, 1, 1, .grayscale, .planar, "topLeft"⟩, pattern := .ramp }
  sink := { verdicts }

/-- A client that has just connected to it. -/
def sinking (verdicts : List (Option FrameError)) : Client (Link (Service PatternSource)) where
  endpoint := .unix "feed.sock"
  channel := Link.dial Message.defaultLimit { router := Router.forSource.withSink, service := served verdicts }

theorem open_sinking (verdicts : List (Option FrameError)) :
    (sinking verdicts).Open Message.defaultLimit Message.defaultLimit Service.taker ∧
      (sinking verdicts).channel.server.service = served verdicts := by
  let server : Server (Service PatternSource) := { router := Router.forSource.withSink, service := served verdicts }
  obtain ⟨-, hrests, hrouter, hservice, -⟩ :=
    Link.dial_spec Message.defaultLimit (s := server) (by intro line hline; cases hline) rfl rfl
  refine ⟨⟨rfl, rfl, hrests, ?_⟩, hservice⟩
  show (Link.dial Message.defaultLimit server).server.router.handler? RequestType.result.name = _
  rw [hrouter]
  exact Router.handler?_withSink _

theorem exact_of_member {key : String} {v : Json} (h : Json.Exact v) (hflat : v.depth = 0) :
    (Request.result [(key, v)]).Exact := by
  rintro _ ⟨⟩
  refine ⟨.obj (List.pairwise_singleton _ _) (List.forall_mem_singleton.2 h), ?_⟩
  simp [Json.depth, Json.depthMembers, hflat]

/-- The sink rejects the first result, takes the second, runs out of time at the third and takes the fourth. -/
theorem sendAll_told_of_verdicts :
    let bodies : List Json.Members := [[("seen", .num (.int 1))], [], [("seen", .bool true)], [("seen", .null)]]
    let c := sinking [some .overflow, none, some .timeout]
    (c.sendAll bodies).1 = [.ok (), .ok (), .error .timeout, .ok ()] ∧
      (c.sendAll bodies).2.channel.server.service.sink = ⟨[], [[], [("seen", .null)]]⟩ ∧
      (c.sendAll bodies).2.Open Message.defaultLimit Message.defaultLimit Service.taker := by
  intro bodies c
  obtain ⟨hopen, hservice⟩ := open_sinking [some .overflow, none, some .timeout]
  have harrive : List.Forall₂ Arrives bodies bodies := by
    refine arrive_of_exact ?_
    intro body hbody
    simp only [bodies, List.mem_cons, List.not_mem_nil, or_false] at hbody
    rcases hbody with rfl | rfl | rfl | rfl
    · exact exact_of_member (.int (by decide) (by decide)) rfl
    · exact Request.exact_of_empty_body _
    · exact exact_of_member (.bool true) rfl
    · exact exact_of_member .null rfl
  have hfit : Fit Message.defaultLimit Message.defaultLimit
      (submissions Service.taker bodies bodies c.channel.server.service) := by
    rw [hservice]
    decide +kernel
  obtain ⟨hresults, -, hopen', -, hservice', -⟩ := sendAll_told hopen harrive hfit
  rw [hresults, hservice', hservice]
  exact ⟨rfl, rfl, hopen'⟩

/-- A sink that runs out of time at a result makes sending it fail, though nothing fails on the way. -/
theorem send_timeout :
    let c := sinking [some .timeout]
    c.Open Message.defaultLimit Message.defaultLimit Service.taker ∧ Arrives [] [] ∧
      Fit Message.defaultLimit Message.defaultLimit
        (submission Service.taker [] [] c.channel.server.service) ∧
      (c.send []).1 = .error .timeout := by
  intro c
  obtain ⟨hopen, hservice⟩ := open_sinking [some .timeout]
  have harrives : Arrives [] [] := Request.ofMessage_toMessage (Request.exact_of_empty_body _)
  have hfit : Fit Message.defaultLimit Message.defaultLimit
      (submission Service.taker [] [] c.channel.server.service) := by
    rw [hservice]
    decide +kernel
  obtain ⟨c', hsend, -⟩ := hopen.send harrives hfit
  refine ⟨hopen, harrives, hfit, ?_⟩
  rw [hsend, hservice]
  rfl

end Client

end FrameFeed
