import FrameFeed.Exchange.Service
import FrameFeed.Feed.Pattern
import FrameFeed.Proofs.Client.Views
import FrameFeed.Proofs.Exchange.Messages
import FrameFeed.Proofs.Network.Exchange
import FrameFeed.Proofs.Session.Violation
/-!
# A client of a served source

A call of a client comes to what it comes to on the source that is served (`Deed.on_client`), and the client
is left idle. There is one exception, which is part of what such a call means (`Deed.served`): a client
refuses metadata of a frame too large to address, and with them the frames.
-/
namespace FrameFeed

/-! ## Calls on a source -/

/-- A call on a source. -/
inductive Deed where
  | metadata
  | next
  | execute (action : String)
deriving DecidableEq, Repr

/-- What a call comes to, and what is shown after a call for the next frame. -/
inductive Seen where
  | metadata (r : Call Metadata)
  | next (r : Call Unit) (shown : Call View)
  | execute (r : Call Unit)

namespace Deed

/-- Calls a source. -/
def on {σ : Type} [FrameSource σ] (d : Deed) (s : σ) : Seen × σ :=
  match d with
  | metadata => (.metadata (FrameSource.metadata s).1, (FrameSource.metadata s).2)
  | next => (.next (FrameSource.next s).1 (FrameSource.current (FrameSource.next s).2), (FrameSource.next s).2)
  | execute a => (.execute (FrameSource.execute a s).1, (FrameSource.execute a s).2)

/-- Why a client has neither metadata nor frames of a source whose frames are too large to address. -/
def unaddressable (m : Metadata) : FrameError := .formatUnsupported (m.text ++ " does not fit in memory")

/-- Calls a source that is served. -/
def served (d : Deed) (s : PatternSource) : Seen × PatternSource :=
  if s.metadata.checkedSize.isSome then d.on s
  else
    match d with
    | metadata => (.metadata (.error (unaddressable s.metadata)), s)
    | next => (.next (.error (unaddressable s.metadata)) (.error .noFrame), s)
    | execute a => (execute a).on s

end Deed

/-! ## What is answered -/

namespace PatternSource

/-- The answer of a session to a request when the source is in this state, and the source afterwards. -/
def answer (q : Request) (s : PatternSource) : Answer × Service PatternSource :=
  Session.answer Router.forSource q.toMessage { source := s, sink := {} }

/-- The request and its reply. -/
def exchanged (q : Request) (s : PatternSource) : List Message :=
  q.toMessage :: ((s.answer q).1.reply?.map Reply.toMessage).toList

variable (s : PatternSource)

theorem answer_eq_dispatch {q : Request} (h : q.Exact) :
    s.answer q = Router.forSource.dispatch q { source := s, sink := {} } :=
  Session.answer_of_ok (Request.ofMessage_toMessage h)

theorem answer_bodyless (t : RequestType) :
    s.answer ⟨t.name, none⟩ = Router.sourceHandler false t none { source := s, sink := {} } := by
  rw [answer_eq_dispatch _ (Request.exact_of_no_body t.name), Router.dispatch]
  have hhandler : (Router.forSource : Router (Service PatternSource)).handler? t.name =
      some (Router.sourceHandler false t) := Router.handler?_ofSource false t
  simp only [hhandler]

theorem answer_metadata : s.answer .metadata = (.reply (.json s.metadata.toJson), { source := s, sink := {} }) :=
  answer_bodyless s .metadata

theorem answer_frame : s.answer .frame =
    ((Call.returned (s.next.1.map fun _ => s.pattern.render s.produced s.metadata)).answer .binary,
      { source := s.next.2, sink := {} }) := by
  have hadvance : Service.advance s =
      (.returned (s.next.1.map fun _ => s.pattern.render s.produced s.metadata), s.next.2) := by
    have hnext : FrameSource.next s = (.returned s.next.1, s.next.2) := rfl
    rw [Service.advance, hnext]
    rcases next_cases s with h | h <;> rw [h] <;> rfl
  refine (answer_bodyless s .frame).trans ?_
  simp only [Router.sourceHandler, Service.answerFrame, Service.call, hadvance]
  rfl

theorem answer_execute (action : String) : s.answer (.execute action) =
    ((Call.returned (s.execute action).1).answer fun _ => .ack, { source := (s.execute action).2, sink := {} }) := by
  have hbody : (Request.execute action).Exact := by
    rintro _ ⟨⟩
    refine ⟨.obj (by simp) ?_, (by decide : 1 ≤ 126)⟩
    simp [Json.Exact.str]
  have hhandler : (Router.forSource : Router (Service PatternSource)).handler? RequestType.execute.name =
      some (Router.sourceHandler false .execute) := Router.handler?_ofSource false .execute
  have haction : ActionBody.ofMembers [("action", .str action)] = .ok ⟨action⟩ := by
    refine Json.Decoder.view_record ["action"] ?_ rfl
    exact Json.Decoder.view_member (b := action) rfl rfl rfl
  rw [answer_eq_dispatch _ hbody, Router.dispatch]
  simp only [Request.execute, hhandler, Router.sourceHandler, Service.answerExecute, haction, Service.call,
    FrameSource.execute]
  rfl

theorem metadata_next : s.next.2.metadata = s.metadata := by
  rcases next_cases s with h | h <;> rw [h]

theorem metadata_execute (action : String) : (s.execute action).2.metadata = s.metadata := by
  unfold execute
  split <;> rfl

end PatternSource

/-! ## One client -/

namespace Client

open Deed (unaddressable)

/-- What a client makes of the metadata of a source. -/
def admitted (m : Metadata) : Except FrameError Metadata :=
  if m.checkedSize.isSome then .ok m else .error (unaddressable m)

/-- A client between two calls on a source in this state: nothing is under way, nothing is owed, and if it
knows metadata, they are those of the source. -/
structure Idle (limit serverLimit : Nat) (s : PatternSource) (c : Client (Link (Service PatternSource))) :
    Prop where
  failure : c.failure = none
  owed : c.owed = none
  known : ∀ m, c.metadata = some m → m = s.metadata ∧ m.checkedSize.isSome
  link : c.channel.Rests limit serverLimit
  router : c.channel.server.router = Router.forSource
  service : c.channel.server.service = { source := s, sink := {} }

/-- A client that is idle again after a call, which touched its own line only. -/
structure Back (limit serverLimit : Nat) (s : PatternSource) (c c' : Client (Link (Service PatternSource))) :
    Prop where
  idle : c'.Idle limit serverLimit s
  id : c'.channel.id = c.channel.id
  beside : Server.Beside c.channel.id c.channel.server c'.channel.server

variable {limit serverLimit : Nat} {s s' s'' : PatternSource}
variable {c c' c'' : Client (Link (Service PatternSource))}

theorem Back.trans (h : Back limit serverLimit s' c c') (h' : Back limit serverLimit s'' c' c'') :
    Back limit serverLimit s'' c c'' := by
  have hbeside := h'.beside
  rw [h.id] at hbeside
  exact ⟨h'.idle, h'.id.trans h.id, h.beside.trans hbeside⟩

theorem Idle.back (h : c.Idle limit serverLimit s) : Back limit serverLimit s c c := ⟨h, rfl, .refl _ _⟩

/-- The frame is nothing to a client that is idle. -/
theorem Back.holding (h : Back limit serverLimit s c c') (frame : Option Bytes) :
    Back limit serverLimit s c { c' with frame } :=
  ⟨⟨h.idle.failure, h.idle.owed, h.idle.known, h.idle.link, h.idle.router, h.idle.service⟩, h.id, h.beside⟩

/-- Both sides take these messages. -/
def Fit (limit serverLimit : Nat) (ms : List Message) : Prop :=
  ∀ m ∈ ms, m.Fits limit ∧ m.Fits serverLimit

instance decidableFit (limit serverLimit : Nat) (ms : List Message) : Decidable (Fit limit serverLimit ms) :=
  inferInstanceAs (Decidable (∀ m ∈ ms,
    (m.payload.length ≤ limit ∧ m.payload.length ≤ Message.lengthLimit) ∧
      m.payload.length ≤ serverLimit ∧ m.payload.length ≤ Message.lengthLimit))

/-- One request. -/
theorem Idle.request {q : Request} {t : RequestType} {r : Reply} (h : c.Idle limit serverLimit s)
    (ht : q.type = .ok t) (hr : (s.answer q).1.reply? = some r)
    (hs : (s.answer q).2 = { source := s', sink := {} }) (hmetadata : s'.metadata = s.metadata)
    (hfit : Fit limit serverLimit (s.exchanged q)) :
    ∃ c', c.request q = (Reply.ofMessage r.toMessage, c') ∧ Back limit serverLimit s' c c' ∧
      c'.metadata = c.metadata ∧ c'.frame = c.frame := by
  have hanswer : Session.answer c.channel.server.router q.toMessage c.channel.server.service = s.answer q := by
    rw [h.router, h.service]; rfl
  obtain ⟨hq, hq'⟩ := hfit q.toMessage (.head _)
  obtain ⟨hfits, hfits'⟩ := hfit r.toMessage (by simp [PatternSource.exchanged, hr])
  obtain ⟨l, hrequest, hid, hrests, hservice, hbeside⟩ :=
    request_over_link h.failure h.owed ht h.link hq hq' (hanswer ▸ hr) hfits hfits'
  refine ⟨_, hrequest, ⟨⟨h.failure, rfl, ?_, hrests, ?_, ?_⟩, hid, hbeside⟩, rfl, rfl⟩
  · intro m hm
    rw [hmetadata]
    exact h.known m hm
  · exact hbeside.router.trans h.router
  · exact hservice.trans (hanswer ▸ hs)

theorem Idle.refresh (h : c.Idle limit serverLimit s) (hfit : Fit limit serverLimit (s.exchanged .metadata)) :
    c.refresh.1 = admitted s.metadata ∧ Back limit serverLimit s c c.refresh.2 := by
  obtain ⟨c', hrequest, hback, hmetadata, -⟩ := h.request (t := .metadata) (r := .json s.metadata.toJson) rfl
    (by rw [s.answer_metadata]; rfl) (by rw [s.answer_metadata]) rfl hfit
  rw [Reply.ofMessage_metadata] at hrequest
  rw [refresh_eq, hrequest]
  simp only [described, s.metadata.ofJson_toJson]
  cases hsize : s.metadata.checkedSize with
  | none =>
    refine ⟨?_, hback⟩
    simp only [admitted, hsize]
    rfl
  | some n =>
    refine ⟨?_, ⟨⟨hback.idle.failure, hback.idle.owed, ?_, hback.idle.link, hback.idle.router,
      hback.idle.service⟩, hback.id, hback.beside⟩⟩
    · simp only [admitted, hsize]
      rfl
    · rintro m ⟨⟩
      exact ⟨rfl, by rw [hsize]; rfl⟩

theorem Idle.known_spec (h : c.Idle limit serverLimit s)
    (hfit : Fit limit serverLimit (s.exchanged .metadata)) :
    c.known.1 = admitted s.metadata ∧ Back limit serverLimit s c c.known.2 := by
  cases hm : c.metadata with
  | none =>
    have hknown : c.known = c.refresh := by rw [Client.known, hm]
    rw [hknown]
    exact h.refresh hfit
  | some m =>
    obtain ⟨rfl, hsize⟩ := h.known m hm
    rw [known_of_some hm, admitted, if_pos hsize]
    exact ⟨rfl, h.back⟩

/-- A client drops its frame before it looks at the metadata. -/
theorem Idle.known_bare (h : c.Idle limit serverLimit s)
    (hfit : Fit limit serverLimit (s.exchanged .metadata)) :
    ∃ c₁, Client.known { c with frame := none } = (admitted s.metadata, c₁) ∧ Back limit serverLimit s c c₁ ∧
      c₁.frame = none ∧ (s.metadata.checkedSize.isSome → c₁.metadata = some s.metadata) := by
  have hbare : Idle limit serverLimit s { c with frame := none } := (h.back.holding none).idle
  obtain ⟨hknown, hback⟩ := hbare.known_spec hfit
  refine ⟨_, Prod.ext hknown rfl, ⟨hback.idle, hback.id, hback.beside⟩, frame_known _, fun hsize => ?_⟩
  rw [admitted, if_pos hsize] at hknown
  exact metadata_of_known_ok hknown

/-- The next frame of a source whose frames can be addressed. -/
theorem Idle.next (h : c.Idle limit serverLimit s) (hsize : s.metadata.checkedSize.isSome)
    (hfit : Fit limit serverLimit (s.exchanged .metadata)) (hfit' : Fit limit serverLimit (s.exchanged .frame)) :
    c.next.1 = s.next.1 ∧ c.next.2.current = s.next.2.current ∧ Back limit serverLimit s.next.2 c c.next.2 := by
  obtain ⟨c₁, hknown, hback, hframe, hmetadata⟩ := h.known_bare hfit
  rw [Client.next, hknown, admitted, if_pos hsize]
  rcases s.next_cases with hover | hnext
  · -- the stream is over
    obtain ⟨c₂, hrequest, hback₂, -, hframe₂⟩ := hback.idle.request (t := .frame)
      (r := .error (.ofFrameError .endOfStream)) rfl (by rw [s.answer_frame, hover]; rfl)
      (by rw [s.answer_frame]) s.metadata_next hfit'
    have hreply : Reply.ofMessage (Reply.error (.ofFrameError .endOfStream)).toMessage = .error .endOfStream := by
      rw [Reply.ofMessage_error, ErrorReply.toFrameError_ofFrameError (by decide) (by decide)]
    rw [hreply] at hrequest
    rw [hframe] at hframe₂
    simp only [hrequest, hover] at hback₂ ⊢
    refine ⟨trivial, ?_, hback.trans hback₂⟩
    rw [current, hframe₂]
    rfl
  · -- the next frame comes, and it is of the size that is known
    obtain ⟨c₂, hrequest, hback₂, hmetadata₂, -⟩ := hback.idle.request (t := .frame)
      (r := .binary (s.pattern.render s.produced s.metadata)) rfl (by rw [s.answer_frame, hnext]; rfl)
      (by rw [s.answer_frame]) s.metadata_next hfit'
    have hlength : (s.pattern.render s.produced s.metadata).length = s.metadata.size :=
      Pattern.length_render ..
    have hreply : Reply.ofMessage (Reply.binary (s.pattern.render s.produced s.metadata)).toMessage =
        .ok (.binary (s.pattern.render s.produced s.metadata)) := rfl
    rw [hreply] at hrequest
    rw [hmetadata hsize] at hmetadata₂
    simp only [hrequest, hnext, if_pos hlength] at hback₂ ⊢
    refine ⟨trivial, ?_, (hback.trans hback₂).holding _⟩
    rw [current, hmetadata₂]
    rfl

/-- There is no next frame of a source whose frames are too large to address, and it is not asked for one. -/
theorem Idle.next_unaddressable (h : c.Idle limit serverLimit s) (hsize : s.metadata.checkedSize.isSome = false)
    (hfit : Fit limit serverLimit (s.exchanged .metadata)) :
    c.next.1 = .error (unaddressable s.metadata) ∧ c.next.2.current = .error .noFrame ∧
      Back limit serverLimit s c c.next.2 := by
  obtain ⟨c₁, hknown, hback, hframe, -⟩ := h.known_bare hfit
  rw [Client.next, hknown, admitted, hsize, if_neg (by decide)]
  refine ⟨rfl, ?_, hback⟩
  show current c₁ = _
  rw [current, hframe]

theorem Idle.execute (h : c.Idle limit serverLimit s) (action : String)
    (hfit : Fit limit serverLimit (s.exchanged (.execute action))) :
    (c.execute action).1 = (s.execute action).1 ∧
      Back limit serverLimit (s.execute action).2 c (c.execute action).2 := by
  have hanswer := s.answer_execute action
  have hmetadata := s.metadata_execute action
  rw [Client.execute]
  by_cases hreset : action = "reset"
  · have hok : (s.execute action).1 = .ok () := by rw [PatternSource.execute, if_pos hreset]
    obtain ⟨c', hrequest, hback, -⟩ := h.request (t := .execute) (r := .ack) rfl
      (by rw [hanswer, hok]; rfl) (by rw [hanswer]) hmetadata hfit
    rw [Reply.ofMessage_ack] at hrequest
    rw [hrequest, hok]
    exact ⟨rfl, hback⟩
  · have herror : (s.execute action).1 = .error (.unsupportedAction action) := by
      rw [PatternSource.execute, if_neg hreset]
    obtain ⟨c', hrequest, hback, -⟩ := h.request (t := .execute)
      (r := .error (.ofFrameError (.unsupportedAction action))) rfl (by rw [hanswer, herror]; rfl)
      (by rw [hanswer]) hmetadata hfit
    have hcause : (ErrorReply.ofFrameError (.unsupportedAction action)).toFrameError =
        .unsupportedAction action :=
      ErrorReply.toFrameError_ofFrameError (show "unsupportedAction" ≠ "insufficientCapacity" by decide)
        (show "unsupportedAction" ≠ "unknown" by decide)
    rw [Reply.ofMessage_error, hcause] at hrequest
    rw [hrequest, herror]
    exact ⟨rfl, hback⟩

end Client

namespace Deed

/-- The requests that a call may send, with their replies. The metadata are asked for once by each client;
a frame that cannot be addressed is not asked for. -/
def messages (d : Deed) (s : PatternSource) : List Message :=
  match d with
  | metadata => s.exchanged .metadata
  | next => s.exchanged .metadata ++ if s.metadata.checkedSize.isSome then s.exchanged .frame else []
  | execute a => s.exchanged (.execute a)

variable {limit serverLimit : Nat} {s : PatternSource} {c : Client (Link (Service PatternSource))}

/-- A call of one client comes to what it comes to on the source that is served. -/
theorem on_client (d : Deed) (h : c.Idle limit serverLimit s)
    (hfit : Client.Fit limit serverLimit (d.messages s)) :
    (d.on c).1 = (d.served s).1 ∧ Client.Back limit serverLimit (d.served s).2 c (d.on c).2 := by
  cases d with
  | metadata =>
    obtain ⟨hknown, hback⟩ := h.known_spec hfit
    have hon : Deed.metadata.on c = (.metadata (.returned c.known.1), c.known.2) := rfl
    rw [hon, hknown, served, Client.admitted]
    cases hsize : s.metadata.checkedSize.isSome with
    | true => exact ⟨rfl, hback⟩
    | false => exact ⟨rfl, hback⟩
  | next =>
    have hfit₁ : Client.Fit limit serverLimit (s.exchanged .metadata) :=
      fun m hm => hfit m (List.mem_append_left _ hm)
    have hon : Deed.next.on c = (.next (.returned c.next.1) (.returned c.next.2.current), c.next.2) := rfl
    rw [hon, served]
    cases hsize : s.metadata.checkedSize.isSome with
    | true =>
      have hfit₂ : Client.Fit limit serverLimit (s.exchanged .frame) := by
        intro m hm
        refine hfit m (List.mem_append_right _ ?_)
        rw [if_pos hsize]; exact hm
      obtain ⟨hnext, hcurrent, hback⟩ := h.next hsize hfit₁ hfit₂
      rw [hnext, hcurrent]
      exact ⟨rfl, hback⟩
    | false =>
      obtain ⟨hnext, hcurrent, hback⟩ := h.next_unaddressable hsize hfit₁
      rw [hnext, hcurrent]
      exact ⟨rfl, hback⟩
  | execute action =>
    obtain ⟨hexecute, hback⟩ := h.execute action hfit
    have hon : (Deed.execute action).on c =
        (.execute (.returned (c.execute action).1), (c.execute action).2) := rfl
    have hserved : (Deed.execute action).served s =
        (.execute (.returned (s.execute action).1), (s.execute action).2) := by
      rw [served]
      split <;> rfl
    rw [hon, hserved, hexecute]
    exact ⟨rfl, hback⟩

end Deed

end FrameFeed
