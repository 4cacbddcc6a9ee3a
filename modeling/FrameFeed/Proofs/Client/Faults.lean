import FrameFeed.Proofs.Client.Lockstep
/-!
# What writes a client off

A client is followed over a channel that keeps a record of its calls (`Recorded`); but for the record it does
there what it does anyway (`run_unrecorded`). The record of one call on the client tells what wrote it off: the
last call to the channel failed, and by more than a deadline of a read (`Tells`). Over a connection that is a
stream that breaks (`ReadBreaks`, `WriteBreaks`), but it is also a request whose payload is over the limit,
though none of it was written (`written_off_by_last_call`).
-/
namespace FrameFeed

/-! ## Where the failures of a stream come from -/

namespace Stream

variable {s s' : Stream} {e : WireError}

/-- The stream may fail a write or a flush like this. -/
def Faults (s : Stream) : WireError → Prop
  | .closed => .takes 0 ∈ s.acceptances
  | .io e => .failed e ∈ s.acceptances ∨ s.refusal = some e ∨ some e ∈ s.flushes
  | _ => False

theorem Faults.mono (h : s'.Faults e) (ha : s'.acceptances ⊆ s.acceptances) (hr : s'.refusal = s.refusal)
    (hf : s'.flushes ⊆ s.flushes) : s.Faults e := by
  cases e with
  | closed => exact ha h
  | io f => exact h.imp (fun h => ha h) (Or.imp (fun h => hr.symm.trans h) fun h => hf h)
  | _ => exact h

theorem write_go_error {b taken : Bytes} {as : List Acceptance}
    (h : (write.go s b taken as).1 = .error e) : Faults { s with acceptances := as } e := by
  fun_induction write.go s b taken as with
  | case1 => cases h
  | case2 => cases h
  | case3 _ _ _ e he => cases h; exact .inr (.inl he)
  | case4 => cases h; exact List.mem_cons_self
  | case5 _ _ _ _ _ _ ih => exact (ih h).mono (List.subset_cons_self ..) rfl (List.Subset.refl _)
  | case6 _ _ _ _ _ _ ih => exact (ih h).mono (List.subset_cons_self ..) rfl (List.Subset.refl _)
  | case7 => cases h; exact .inl List.mem_cons_self

theorem write_go_left (s : Stream) (b taken : Bytes) (as : List Acceptance) :
    (write.go s b taken as).2.2 ⊆ as := by
  fun_induction write.go s b taken as with
  | case1 => exact List.Subset.refl _
  | case2 => exact List.Subset.refl _
  | case3 => exact List.Subset.refl _
  | case4 => exact List.subset_cons_self ..
  | case5 _ _ _ _ _ _ ih => exact List.subset_cons_of_subset _ ih
  | case6 _ _ _ _ _ _ ih => exact List.subset_cons_of_subset _ ih
  | case7 => exact List.subset_cons_self ..

theorem flush_go_error {fs : List (Option IoError)} (h : (flush.go fs).1 = .error e) :
    ∃ f, e = .io f ∧ some f ∈ fs := by
  fun_induction flush.go fs with
  | case1 => cases h
  | case2 => cases h
  | case3 _ _ _ ih =>
    obtain ⟨f, he, hf⟩ := ih h
    exact ⟨f, he, .tail _ hf⟩
  | case4 f => cases h; exact ⟨f, rfl, .head _⟩

theorem faults_write {b : Bytes} (h : (s.write b).1 = .error e) : s.Faults e := write_go_error h

theorem faults_flush (h : s.flush.1 = .error e) : s.Faults e := by
  obtain ⟨f, rfl, hf⟩ := flush_go_error h
  exact .inr (.inr hf)

/-- What is left of a stream after a write faults no other way than all of it. -/
theorem Faults.of_write {b : Bytes} (h : (s.write b).2.Faults e) : s.Faults e :=
  h.mono (write_go_left s b [] s.acceptances) rfl (List.Subset.refl _)

end Stream

namespace Connection

/-- The stream breaks before the next message is there: what came cannot be one, or the stream ends or fails, and
it is no deadline that passed. -/
inductive ReadBreaks (c : Connection) : Prop where
  | rejected {e : WireError} : Message.decode c.limit c.ahead = .error e → ReadBreaks c
  | ended : Message.decode c.limit c.ahead = .ok none → c.stop = none → ReadBreaks c
  | failed {e : IoError} : Message.decode c.limit c.ahead = .ok none → c.stop = some e → e.isTimeout = false →
      ReadBreaks c

/-- The stream takes nothing more of the message, or fails while it is written. -/
def WriteBreaks (m : Message) (c : Connection) : Prop :=
  ∃ e, (c.send m).1 = .error e ∧ c.stream.Faults e

variable {c : Connection} {m : Message}

theorem receive_fails_iff (c : Connection) : c.Fails ↔ c.ReadBreaks := by
  have hahead := c.receive_ahead
  constructor
  · rintro ⟨e, he, hlasting⟩
    split at hahead
    · rename_i hd
      rw [hahead.1] at he; cases he
    · rename_i hd
      rw [hahead] at he; cases he
      cases hs : c.stop with
      | none => exact .ended hd hs
      | some f => rw [hs] at hlasting; exact .failed hd hs hlasting
    · rename_i hd
      exact .rejected hd
  · intro h
    cases h with
    | rejected hd =>
      rw [hd] at hahead
      exact ⟨_, hahead, (Message.decode_error hd).2⟩
    | ended hd hs =>
      rw [hd] at hahead
      exact ⟨_, hahead, by rw [hs]; rfl⟩
    | failed hd hs hlasting =>
      rw [hd] at hahead
      exact ⟨_, hahead, by rw [hs]; exact hlasting⟩

theorem not_writeBreaks_of_not_fits (hm : ¬m.Fits c.limit) : ¬c.WriteBreaks m := by
  rintro ⟨e, he, hfault⟩
  obtain ⟨most, hs⟩ := send_of_not_fits hm
  rw [hs] at he
  cases he
  exact hfault

theorem send_fails_iff (m : Message) (c : Connection) : c.Refuses m ↔ c.WriteBreaks m ∨ ¬m.Fits c.limit := by
  constructor
  · rintro ⟨e, h⟩
    rcases send_cases m c with ⟨hm, -⟩ | ⟨w, -, ⟨f, hf, hs⟩ | ⟨-, ⟨f, hf, hs⟩ | ⟨-, hs⟩⟩⟩
    · exact .inr hm
    · rw [hs] at h; cases h
      exact .inl ⟨e, by rw [hs], Stream.faults_write hf⟩
    · rw [hs] at h; cases h
      exact .inl ⟨e, by rw [hs], (Stream.faults_write hf).of_write⟩
    · rw [hs] at h
      exact .inl ⟨e, by rw [hs]; exact h, (Stream.faults_flush h).of_write.of_write⟩
  · rintro (⟨e, he, -⟩ | hm)
    · exact ⟨e, he⟩
    · obtain ⟨most, hs⟩ := send_of_not_fits hm
      exact ⟨_, by rw [hs]⟩

end Connection

/-! ## A record of the calls to a channel -/

/-- A call to a channel, and the channel as it was then. -/
inductive ChannelCall (σ : Type) where
  | send (m : Message) (on : σ)
  | receive (on : σ)

/-- The call failed, and not because a deadline for reading passed. -/
def ChannelCall.Failed {σ : Type} [Channel σ] : ChannelCall σ → Prop
  | send m on => ∃ e, (Channel.send m on).1 = .error e
  | receive on => ∃ e, (Channel.receive on).1 = .error e ∧ e.isTimeout = false

/-- A channel with a record of the calls to it. -/
structure Recorded (σ : Type) where
  channel : σ
  record : List (ChannelCall σ) := []

instance {σ : Type} [Channel σ] : Channel (Recorded σ) where
  send m r :=
    let (said, channel) := Channel.send m r.channel
    (said, ⟨channel, r.record ++ [.send m r.channel]⟩)
  receive r :=
    let (said, channel) := Channel.receive r.channel
    (said, ⟨channel, r.record ++ [.receive r.channel]⟩)

namespace Recorded

variable {σ : Type} [Channel σ] (r : Recorded σ)

theorem send_eq (m : Message) : Channel.send m r =
    ((Channel.send m r.channel).1, ⟨(Channel.send m r.channel).2, r.record ++ [.send m r.channel]⟩) := rfl

theorem receive_eq : Channel.receive r =
    ((Channel.receive r.channel).1, ⟨(Channel.receive r.channel).2, r.record ++ [.receive r.channel]⟩) := rfl

end Recorded

namespace Client

variable {σ : Type}

/-- The client on a channel that keeps a record from now on. -/
def recorded (c : Client σ) : Client (Recorded σ) := { c with channel := { channel := c.channel } }

/-- The client without the record. -/
def unrecorded (c : Client (Recorded σ)) : Client σ := { c with channel := c.channel.channel }

variable [Channel σ]

/-- The calls to its channel that a call on a client makes. -/
def callsOf (k : Errand) (c : Client σ) : List (ChannelCall σ) := (c.recorded.run k).2.channel.record

section
variable (c : Client (Recorded σ)) (q : Request) (t : RequestType)

theorem collect_unrecorded : c.unrecorded.collect = (c.collect.1, c.collect.2.unrecorded) := by
  simp only [collect, unrecorded, Recorded.receive_eq]
  rcases Channel.receive c.channel.channel with ⟨e | m, channel⟩
  · dsimp only
    split <;> rfl
  · rfl

theorem ask_unrecorded : c.unrecorded.ask t q = ((c.ask t q).1, (c.ask t q).2.unrecorded) := by
  rw [ask, ask, Recorded.send_eq]
  simp only [unrecorded]
  rcases Channel.send q.toMessage c.channel.channel with ⟨e | u, channel⟩
  · rfl
  · have hcollect := collect_unrecorded { c with
      channel := ⟨channel, c.channel.record ++ [.send q.toMessage c.channel.channel]⟩, owed := some t }
    simp only [unrecorded] at hcollect
    simp only [hcollect]
    rcases collect _ with ⟨e | m, c'⟩ <;> rfl

theorem request_unrecorded : c.unrecorded.request q = ((c.request q).1, (c.request q).2.unrecorded) := by
  have hcollect := collect_unrecorded c
  obtain ⟨endpoint, channel, metadata, frame, owed, failure⟩ := c
  simp only [unrecorded] at hcollect
  simp only [request, unrecorded, hcollect]
  cases failure with
  | some reason => rfl
  | none =>
    cases q.type with
    | error e => rfl
    | ok t =>
      cases owed with
      | none => exact ask_unrecorded ⟨endpoint, channel, metadata, frame, none, none⟩ q t
      | some owed =>
        rcases collect ⟨endpoint, channel, metadata, frame, some owed, none⟩ with ⟨_ | late, c'⟩
        · rfl
        · dsimp only
          by_cases hframe : owed = .frame ∧ t = .frame
          · simp only [if_pos hframe]
          · simp only [if_neg hframe]
            exact ask_unrecorded { c' with owed := none } q t

theorem carryOut_unrecorded (p : Plan) :
    carryOut p c.unrecorded = ((carryOut p c).1, (carryOut p c).2.unrecorded) := by
  induction p generalizing c with
  | done o known current => rfl
  | ask q go ih =>
    rw [carryOut, carryOut, request_unrecorded]
    exact ih _ _

/-- The record is nothing to a call. -/
theorem run_unrecorded (k : Errand) : c.unrecorded.run k = ((c.run k).1, (c.run k).2.unrecorded) := by
  rw [run_eq_carryOut, run_eq_carryOut]
  exact carryOut_unrecorded c _

end

/-! ## What the record tells -/

/-- The client is written off if the last call to its channel failed, and only then. -/
def Tells (c : Client (Recorded σ)) : Prop :=
  c.failure.isSome ↔ ∃ last, c.channel.record.getLast? = some last ∧ last.Failed

section
variable {c : Client (Recorded σ)}

/-- One more call to the channel, and whether it failed. -/
theorem tells_append {call : ChannelCall σ} {record : List (ChannelCall σ)}
    (hrecord : c.channel.record = record ++ [call]) (h : c.failure.isSome ↔ call.Failed) : c.Tells := by
  rw [Tells, hrecord, List.getLast?_concat, h]
  constructor
  · exact fun hfailed => ⟨call, rfl, hfailed⟩
  · rintro ⟨last, hlast, hfailed⟩
    cases hlast
    exact hfailed

theorem failure_of_collect {m : Message} {c' : Client (Recorded σ)} (h : c.collect = (.ok m, c')) :
    c'.failure = c.failure := by
  rw [collect] at h
  split at h
  · cases h; rfl
  · split at h <;> cases h

theorem tells_collect (hf : c.failure = none) : c.collect.2.Tells := by
  rw [collect, Recorded.receive_eq]
  cases hr : (Channel.receive c.channel.channel).1 with
  | ok m =>
    refine tells_append rfl ?_
    simp [hf, ChannelCall.Failed, hr]
  | error e =>
    dsimp only
    split
    · rename_i he
      refine tells_append rfl ?_
      simp [hf, ChannelCall.Failed, hr, he]
    · rename_i he
      refine tells_append rfl ?_
      simp [fail, ChannelCall.Failed, hr, he]

theorem tells_ask (hf : c.failure = none) (q : Request) (t : RequestType) : (c.ask t q).2.Tells := by
  rw [ask, Recorded.send_eq]
  cases hs : (Channel.send q.toMessage c.channel.channel).1 with
  | error e =>
    refine tells_append rfl ?_
    simp [fail, ChannelCall.Failed, hs]
  | ok u =>
    have hcollect := @tells_collect σ _ { c with
      channel := ⟨(Channel.send q.toMessage c.channel.channel).2,
        c.channel.record ++ [.send q.toMessage c.channel.channel]⟩, owed := some t } hf
    dsimp only at hcollect ⊢
    split
    · rename_i hc; rw [hc] at hcollect; exact hcollect
    · rename_i hc; rw [hc] at hcollect; exact hcollect

theorem Tells.request (h : c.Tells) (q : Request) : (c.request q).2.Tells := by
  unfold Client.request
  cases hf : c.failure with
  | some reason => exact h
  | none =>
    cases q.type with
    | error e => exact h
    | ok t =>
      dsimp only
      cases c.owed with
      | none => exact tells_ask hf q t
      | some owed =>
        have hcollect := tells_collect hf
        dsimp only
        split
        · rename_i hc; rw [hc] at hcollect; exact hcollect
        · rename_i late c' hc
          rw [hc] at hcollect
          split
          · exact hcollect
          · exact @tells_ask σ _ { c' with owed := none } ((failure_of_collect hc).trans hf) q t

theorem Tells.carryOut (h : c.Tells) (p : Plan) : (carryOut p c).2.Tells := by
  induction p generalizing c with
  | done o known current => exact h
  | ask q go ih => exact ih _ (h.request q)

theorem Tells.run (h : c.Tells) (k : Errand) : (c.run k).2.Tells := by
  rw [run_eq_carryOut]
  exact h.carryOut _

end

end Client

/-! ## Over a connection -/

namespace ChannelCall

/-- The stream broke. -/
def Breaks : ChannelCall Connection → Prop
  | send m on => on.WriteBreaks m
  | receive on => on.ReadBreaks

/-- The payload is over the limit, or no header can hold its length. -/
def Oversized : ChannelCall Connection → Prop
  | send m on => ¬m.Fits on.limit
  | receive _ => False

theorem failed_iff (call : ChannelCall Connection) : call.Failed ↔ call.Breaks ∨ call.Oversized := by
  cases call with
  | send m on => exact on.send_fails_iff m
  | receive on => exact on.receive_fails_iff.trans (or_false _).symm.to_iff

end ChannelCall

namespace Client

/-- **A client is written off by the last call to its connection.** After any calls on a new client, one more call
writes it off if and only if the last thing it did with the connection was one of these: a read up to which the
stream ended or failed, other than by a deadline, or brought bytes that are no message; a write that the stream
did not take or that failed; or a request whose payload is over the limit, which never reached the stream. In
all other cases, whatever the call returns, the client is not written off and in step with the server. -/
theorem written_off_by_last_call (e : Endpoint) (start : Connection) (ks : List Errand) (k : Errand) :
    let c := runAll ks { endpoint := e, channel := start }
    let c' := (c.run k).2
    (c.recorded.run k).2.unrecorded = c' ∧ InStep start c' ∧
      (c.failure = none → (c'.failure.isSome ↔
        ∃ last, (c.callsOf k).getLast? = some last ∧ (last.Breaks ∨ last.Oversized))) := by
  intro c c'
  have hsound : Sound start c := (sound_start e start).runAll ks
  have hrun := run_unrecorded c.recorded k
  refine ⟨(Prod.ext_iff.1 hrun).2.symm, ?_, fun hf => ?_⟩
  · show InStep start (c.run k).2
    rw [run_eq_carryOut]
    exact (hsound.carryOut _).2.inStep
  · have hfresh : c.recorded.Tells := by simp [Tells, recorded, hf]
    have htells := hfresh.run k
    rw [Tells] at htells
    have hfailure : c'.failure = (c.recorded.run k).2.failure :=
      congrArg (fun r : Outcome × Client Connection => r.2.failure) hrun
    rw [hfailure, htells]
    simp only [ChannelCall.failed_iff, callsOf]

/-- A client whose connection takes no payload of more than forty bytes is written off by a request to execute
an action, though its stream did not break, and nothing was done to it. -/
theorem written_off_by_size :
    let start : Connection := { limit := 40 }
    let c : Client Connection := { endpoint := .unix "frames.sock", channel := start }
    c.failure = none ∧ (c.run (.execute "reset")).2.failure.isSome ∧
      (∀ call ∈ c.callsOf (.execute "reset"), ¬call.Breaks) ∧ (c.run (.execute "reset")).2.channel = start := by
  intro start c
  have hsize : ¬(Request.execute "reset").toMessage.Fits start.limit := by decide +kernel
  have hcalls : c.callsOf (.execute "reset") = [.send (Request.execute "reset").toMessage start] := by
    rfl
  refine ⟨rfl, ?_, ?_, ?_⟩
  · rfl
  · rw [hcalls]
    simpa [ChannelCall.Breaks] using Connection.not_writeBreaks_of_not_fits hsize
  · rfl

end Client
end FrameFeed
