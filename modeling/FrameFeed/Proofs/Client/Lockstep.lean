import FrameFeed.Proofs.Client.Plan
import FrameFeed.Proofs.Wire.Traffic
/-!
# Requests and replies in step

A server answers each request by one reply, in the order of the requests, so the reply to the request at
a place is the message that is framed at that place of what it sends (`Connection.inbound`). A client
that is not written off keeps in step with it (`InStep`): of all the requests that it wrote, at most the
last one waits for its reply, and that one is owed. So every answer is the reply to the request that was
written for it, or to the request for a frame whose reply was owed (`Trip`).
-/
namespace FrameFeed

/-! ## What went over the connection -/

namespace Connection

/-- The messages that are still to be read. -/
def inbound (c : Connection) : List Message := (Message.decodeAll c.limit c.pending).1

/-- The messages that were written since a connection was `start`. -/
def written (start c : Connection) : List Message :=
  (Message.decodeAll Message.lengthLimit (c.stream.sent.drop start.stream.sent.length)).1

/-- How many messages were read since a connection was `start`. -/
def readSince (start c : Connection) : Nat := start.inbound.length - c.inbound.length

/-- These messages were read between two states of a connection. -/
structure Read (c : Connection) (ms : List Message) (c' : Connection) : Prop where
  limit : c'.limit = c.limit
  frames : Message.Frames c.limit ms c.pending c'.pending

variable {start c c' c'' : Connection} {ms ms' : List Message} {m : Message} {w : Bytes}

theorem Read.refl (c : Connection) : Read c [] c := ⟨rfl, rfl⟩

theorem Read.trans (h : Read c ms c') (h' : Read c' ms' c'') : Read c (ms ++ ms') c'' :=
  ⟨h'.limit.trans h.limit, h.frames.append (h.limit ▸ h'.frames)⟩

theorem Read.inbound (h : Read c ms c') : c.inbound = ms ++ c'.inbound := by
  rw [Connection.inbound, h.frames.decodeAll_eq, Connection.inbound, h.limit]

theorem Read.readSince (h : Read start ms c) : readSince start c = ms.length := by
  rw [Connection.readSince, h.inbound, List.length_append]; omega

/-- The message after those that were read is the next one. -/
theorem Read.next (h : Read start ms c) (h' : Read c [m] c') : start.inbound[ms.length]? = some m := by
  rw [(h.trans h').inbound, List.append_assoc, List.getElem?_append_right (Nat.le_refl _), Nat.sub_self]
  rfl

theorem read_of_receive (h : c.receive.1 = .ok m) : Read c [m] c.receive.2 :=
  ⟨rfl, _, decode_pending_of_receive h, rfl⟩

theorem read_of_receive_error {e : WireError} (h : c.receive.1 = .error e) : Read c [] c.receive.2 :=
  ⟨rfl, (pending_of_receive_error h).symm⟩

theorem read_of_send (m : Message) (c : Connection) : Read c [] (c.send m).2 :=
  ⟨(send_sides m c).1, pending_send.symm⟩

/-- A deadline passes before the next message is there. -/
def TimesOut (c : Connection) : Prop := ∃ e, c.receive.1 = .error e ∧ e.isTimeout = true

/-- The next message cannot be read. -/
def Fails (c : Connection) : Prop := ∃ e, c.receive.1 = .error e ∧ e.isTimeout = false

/-- The message cannot be written. -/
def Refuses (c : Connection) (m : Message) : Prop := ∃ e, (c.send m).1 = .error e

/-- These messages were written between two states of a connection. -/
def Wrote (c : Connection) (ms : List Message) (c' : Connection) : Prop :=
  ∃ w, Message.OnWire ms w ∧ c'.stream.sent = c.stream.sent ++ w

theorem Wrote.refl (c : Connection) : Wrote c [] c := ⟨[], rfl, (List.append_nil _).symm⟩

theorem Wrote.trans (h : Wrote c ms c') (h' : Wrote c' ms' c'') : Wrote c (ms ++ ms') c'' := by
  obtain ⟨w, hw, hs⟩ := h
  obtain ⟨w', hw', hs'⟩ := h'
  exact ⟨w ++ w', hw.append hw', by rw [hs', hs, List.append_assoc]⟩

theorem Wrote.written (h : Wrote start ms c) : written start c = ms := by
  obtain ⟨w, hw, hs⟩ := h
  rw [Connection.written, hs, List.drop_left, hw.decodeAll_eq (Nat.le_refl _)]

theorem wrote_of_send (h : (c.send m).1 = .ok ()) : Wrote c [m] (c.send m).2 := by
  obtain ⟨w, hw, hs⟩ := sent_of_send h
  exact ⟨w, .single hw, hs⟩

end Connection

namespace Client

open Connection (inbound written readSince Read Wrote)

/-! ## What a client does to its connection -/

section
variable (c : Client Connection) (t : RequestType) (q : Request)

/-- A client reads the next message, or a deadline passes, or it is written off. -/
theorem collect_cases :
    (∃ m, Read c.channel [m] c.channel.receive.2 ∧
      c.collect = (.ok m, { c with channel := c.channel.receive.2 })) ∨
    Read c.channel [] c.channel.receive.2 ∧
      (c.channel.TimesOut ∧ c.collect = (.error .timeout, { c with channel := c.channel.receive.2 }) ∨
        c.channel.Fails ∧ ∃ reason, c.collect = (.error (.faulted reason),
          { c with channel := c.channel.receive.2, failure := some reason })) := by
  have hr : Channel.receive c.channel = (c.channel.receive.1, c.channel.receive.2) := rfl
  rw [collect, hr]
  cases h : c.channel.receive.1 with
  | ok m => exact .inl ⟨m, Connection.read_of_receive h, rfl⟩
  | error e =>
    refine .inr ⟨Connection.read_of_receive_error h, ?_⟩
    dsimp only
    split
    · rename_i he; exact .inl ⟨⟨e, h, he⟩, rfl⟩
    · rename_i he; exact .inr ⟨⟨e, h, by simpa using he⟩, _, rfl⟩

/-- A client that writes a request either writes all of it and then reads its reply or goes on owing it,
or is written off. -/
theorem ask_cases : ∃ ch,
    (Read c.channel [] ch ∧ c.channel.Refuses q.toMessage ∧ ∃ reason,
      c.ask t q = (.error (.faulted reason), { c with channel := ch, failure := some reason })) ∨
    Wrote c.channel [q.toMessage] ch ∧
      ((∃ m, Read c.channel [m] ch ∧
          c.ask t q = (Reply.ofMessage m, { c with channel := ch, owed := none })) ∨
        Read c.channel [] ch ∧
          ((c.channel.send q.toMessage).2.TimesOut ∧
              c.ask t q = (.error .timeout, { c with channel := ch, owed := some t }) ∨
            (c.channel.send q.toMessage).2.Fails ∧ ∃ reason, c.ask t q = (.error (.faulted reason),
              { c with channel := ch, owed := some t, failure := some reason }))) := by
  have hs : Channel.send q.toMessage c.channel =
      ((c.channel.send q.toMessage).1, (c.channel.send q.toMessage).2) := rfl
  have hread := Connection.read_of_send q.toMessage c.channel
  rw [ask, hs]
  cases h : (c.channel.send q.toMessage).1 with
  | error e => exact ⟨_, .inl ⟨hread, ⟨e, h⟩, _, rfl⟩⟩
  | ok u =>
    obtain ⟨w, hw, hsent⟩ := Connection.wrote_of_send h
    refine ⟨(c.channel.send q.toMessage).2.receive.2, .inr ⟨⟨w, hw, hsent⟩, ?_⟩⟩
    rcases collect_cases { c with channel := (c.channel.send q.toMessage).2, owed := some t } with
      ⟨m, hm, hc⟩ | ⟨hm, ⟨ht, hc⟩ | ⟨hf, reason, hc⟩⟩
    · exact .inl ⟨m, hread.trans hm, by simp only [hc]⟩
    · exact .inr ⟨hread.trans hm, .inl ⟨ht, by simp only [hc]⟩⟩
    · exact .inr ⟨hread.trans hm, .inr ⟨hf, reason, by simp only [hc]⟩⟩

end

/-! ## One request -/

/-- A client that is not written off has a reply to each of its requests, or to all but the last one,
whose type is then owed. -/
def InStep (start : Connection) (c : Client Connection) : Prop :=
  c.failure = none →
    match c.owed with
    | none => (written start c.channel).length = readSince start c.channel
    | some t => (written start c.channel).length = readSince start c.channel + 1 ∧
        ∃ q, (written start c.channel).getLast? = some (Request.toMessage q) ∧ q.type = .ok t

/-- The reply that the client owes answers the request. -/
def AnswersLate (c : Client Connection) (q : Request) : Prop :=
  c.owed = some .frame ∧ q.type = .ok .frame

/-- The connection on which the client writes, after it collected what is owed. -/
def collected (c : Client Connection) : Connection :=
  if c.owed.isSome then c.channel.receive.2 else c.channel

/-- How a request may go, and the answer. -/
inductive Trip (start : Connection) (q : Request) (c : Client Connection) :
    Except FrameError Reply → Client Connection → Prop
  /-- The client was written off before. -/
  | refused {reason : String} : c.failure = some reason → Trip start q c (.error (.faulted reason)) c
  /-- There is no such request. -/
  | unknown {e : ServiceError} : c.failure = none → q.type = .error e →
      Trip start q c (.error (.invalidParameter e.message)) c
  /-- The request is written, and its own reply is the answer. -/
  | answered {m : Message} {c' : Client Connection} : c.failure = none → c'.failure = none →
      ¬AnswersLate c q →
      written start c'.channel = written start c.channel ++ [q.toMessage] →
      start.inbound[(written start c.channel).length]? = some m → c'.owed = none →
      Trip start q c (Reply.ofMessage m) c'
  /-- A frame was owed: it is the answer to a request for a frame, and nothing is written. -/
  | late {m : Message} {c' : Client Connection} : c.failure = none → c'.failure = none →
      AnswersLate c q → c'.channel.stream.sent = c.channel.stream.sent →
      start.inbound[(written start c.channel).length - 1]? = some m → c'.owed = none →
      Trip start q c (Reply.ofMessage m) c'
  /-- The reply that is owed is still to come, and nothing is written. -/
  | overdue {t : RequestType} {c' : Client Connection} : c.failure = none → c'.failure = none →
      c.channel.TimesOut → c.owed = some t → c'.owed = some t →
      c'.channel.stream.sent = c.channel.stream.sent →
      readSince start c'.channel = readSince start c.channel →
      Trip start q c (.error .timeout) c'
  /-- The request is written, and its reply is owed. -/
  | unanswered {t : RequestType} {c' : Client Connection} : c.failure = none → c'.failure = none →
      (c.collected.send q.toMessage).2.TimesOut → ¬AnswersLate c q →
      written start c'.channel = written start c.channel ++ [q.toMessage] → q.type = .ok t →
      c'.owed = some t → Trip start q c (.error .timeout) c'
  /-- A message cannot be read or the request cannot be written, and the client is written off. -/
  | failed {reason : String} {c' : Client Connection} : c.failure = none → c'.failure = some reason →
      c.owed.isSome ∧ c.channel.Fails ∨ c.collected.Refuses q.toMessage ∨
        (c.collected.send q.toMessage).2.Fails →
      Trip start q c (.error (.faulted reason)) c'

/-- These requests were written and these replies read. -/
structure Keeps (start : Connection) (qs : List Request) (ms : List Message) (c : Client Connection) :
    Prop where
  wrote : Wrote start (qs.map Request.toMessage) c.channel
  read : Read start ms c.channel
  owed : match c.owed with
    | none => ms.length = qs.length
    | some t => ∃ qs' q, qs = qs' ++ [q] ∧ q.type = .ok t ∧ ms.length = qs'.length

section
variable {start : Connection} {qs : List Request} {ms : List Message} {c : Client Connection} {q : Request}
variable {t : RequestType} {ch : Connection}

theorem Keeps.written_eq (h : Keeps start qs ms c) :
    written start c.channel = qs.map Request.toMessage := h.wrote.written

theorem Keeps.wrote_append (h : Keeps start qs ms c) (hw : Wrote c.channel [q.toMessage] ch) :
    Wrote start ((qs ++ [q]).map Request.toMessage) ch := by
  rw [List.map_append]
  exact h.wrote.trans hw

/-- Reading alone leaves what was written as it is. -/
theorem Keeps.wrote_of_sent_eq (h : Keeps start qs ms c)
    (hs : ch.stream.sent = c.channel.stream.sent) : Wrote start (qs.map Request.toMessage) ch := by
  obtain ⟨w, hw, hsent⟩ := h.wrote
  exact ⟨w, hw, hs.trans hsent⟩

theorem Keeps.inStep (h : Keeps start qs ms c) : InStep start c := by
  intro _
  have howed := h.owed
  rw [h.written_eq, h.read.readSince]
  cases ho : c.owed with
  | none =>
    rw [ho] at howed
    dsimp only at howed ⊢
    rw [List.length_map, howed]
  | some t =>
    rw [ho] at howed
    obtain ⟨qs', q, rfl, hq, hlen⟩ := howed
    refine ⟨by simp [hlen], q, by simp, hq⟩

/-- A request that is made when no reply is owed, or when it was dropped. -/
theorem trip_ask {c₀ : Client Connection} (hf₀ : c₀.failure = none) (hn₀ : ¬AnswersLate c₀ q)
    (hc₀ : c₀.collected = c.channel)
    (hw₀ : written start c₀.channel = written start c.channel) (h : Keeps start qs ms c)
    (hf : c.failure = none) (ho : ms.length = qs.length) (ht : q.type = .ok t) :
    Trip start q c₀ (c.ask t q).1 (c.ask t q).2 ∧
      ((c.ask t q).2.failure = none → ∃ qs' ms', Keeps start qs' ms' (c.ask t q).2) := by
  rw [h.written_eq] at hw₀
  obtain ⟨ch, ⟨-, hn, reason, hc⟩ | ⟨hw, ⟨m, hr, hc⟩ | ⟨hr, ⟨hn, hc⟩ | ⟨hn, reason, hc⟩⟩⟩⟩ :=
    ask_cases c t q
  · rw [hc]
    exact ⟨.failed hf₀ rfl (.inr (.inl (hc₀ ▸ hn))), nofun⟩
  · rw [hc]
    refine ⟨.answered hf₀ hf hn₀ ?_ ?_ rfl, fun _ =>
      ⟨qs ++ [q], ms ++ [m], h.wrote_append hw, h.read.trans hr, ?_⟩⟩
    · rw [hw₀]; exact (h.wrote.trans hw).written
    · rw [hw₀, List.length_map, ← ho]; exact h.read.next hr
    · simp [ho]
  · rw [hc]
    refine ⟨.unanswered hf₀ hf (hc₀ ▸ hn) hn₀ ?_ ht rfl, fun _ =>
      ⟨qs ++ [q], ms ++ [], h.wrote_append hw, h.read.trans hr, ?_⟩⟩
    · rw [hw₀]; exact (h.wrote.trans hw).written
    · exact ⟨qs, q, rfl, ht, by rw [List.append_nil, ho]⟩
  · rw [hc]
    exact ⟨.failed hf₀ rfl (.inr (.inr (hc₀ ▸ hn))), nofun⟩

/-- Every request of a client that keeps track of what passed goes as a request may go. -/
theorem trip_request (h : Keeps start qs ms c) (hf : c.failure = none) :
    Trip start q c (c.request q).1 (c.request q).2 ∧
      ((c.request q).2.failure = none → ∃ qs' ms', Keeps start qs' ms' (c.request q).2) := by
  have howed := h.owed
  unfold request
  rw [hf]
  cases ht : q.type with
  | error e => exact ⟨.unknown hf ht, fun _ => ⟨qs, ms, h⟩⟩
  | ok t =>
    dsimp only
    cases ho : c.owed with
    | none =>
      rw [ho] at howed
      have hn : ¬AnswersLate c q := by rw [AnswersLate, ho]; exact nofun
      have hcollected : c.collected = c.channel := by rw [collected, ho]; rfl
      exact trip_ask hf hn hcollected rfl h hf howed ht
    | some owed =>
      rw [ho] at howed
      obtain ⟨qs', q', rfl, hq', hlen⟩ := howed
      dsimp only
      have hs : c.channel.receive.2.stream.sent = c.channel.stream.sent := rfl
      rcases collect_cases c with ⟨m, hr, hc⟩ | ⟨hr, ⟨hn, hc⟩ | ⟨hn, reason, hc⟩⟩
      · -- what was owed is here: it is the answer, or it is dropped and the request goes out
        have hwrote := h.wrote_of_sent_eq hs
        have hread := h.read.trans hr
        rw [hc]
        dsimp only
        split
        · rename_i hframe
          have hlate : AnswersLate c q := by rw [AnswersLate, ho, ht, hframe.1, hframe.2]; exact ⟨rfl, rfl⟩
          refine ⟨.late hf hf hlate hs ?_ rfl, fun _ =>
            ⟨_, _, hwrote, hread, ?_⟩⟩
          · rw [h.written_eq, List.length_map, List.length_append, List.length_singleton,
              Nat.add_sub_cancel, ← hlen]
            exact h.read.next hr
          · simp [hlen]
        · rename_i hframe
          have hn : ¬AnswersLate c q := by
            rw [AnswersLate, ho, ht]
            exact fun h => hframe ⟨Option.some.inj h.1, Except.ok.inj h.2⟩
          have hkeeps : Keeps start (qs' ++ [q']) (ms ++ [m])
              { c with channel := c.channel.receive.2, owed := none } :=
            ⟨hwrote, hread, by simp [hlen]⟩
          have hcollected : c.collected = c.channel.receive.2 := by rw [collected, ho]; rfl
          refine trip_ask hf hn hcollected ?_ hkeeps hf (by simp [hlen]) ht
          rw [h.written_eq, hkeeps.written_eq]
      · rw [hc]
        refine ⟨.overdue hf hf hn ho ho hs ?_, fun _ => ⟨_, _, h.wrote_of_sent_eq hs, h.read.trans hr, ?_⟩⟩
        · rw [(h.read.trans hr).readSince, h.read.readSince, List.append_nil]
        · dsimp only
          rw [ho]
          exact ⟨qs', q', rfl, hq', by rw [List.append_nil, hlen]⟩
      · rw [hc]
        exact ⟨.failed hf rfl (.inl ⟨by rw [ho]; rfl, hn⟩), nofun⟩

end

/-! ## A client that is written off -/

section
variable {c : Client Connection} {reason : String}

theorem request_of_failure (h : c.failure = some reason) (q : Request) :
    c.request q = (.error (.faulted reason), c) := by
  rw [request, h]

/-- It neither reads nor writes. -/
theorem carryOut_of_failure (p : Plan) (h : c.failure = some reason) :
    (carryOut p c).2.channel = c.channel ∧ (carryOut p c).2.failure = some reason := by
  induction p with
  | done o known current => exact ⟨rfl, h⟩
  | ask q go ih =>
    rw [carryOut, request_of_failure h]
    exact ih _

theorem runAll_of_failure (ks : List Errand) (h : c.failure = some reason) :
    (runAll ks c).channel = c.channel ∧ (runAll ks c).failure = some reason := by
  induction ks generalizing c with
  | nil => exact ⟨rfl, h⟩
  | cons k ks ih =>
    obtain ⟨hchannel, hfailure⟩ := carryOut_of_failure (.of k c.metadata c.frame) h
    rw [← run_eq_carryOut] at hchannel hfailure
    obtain ⟨hchannel', hfailure'⟩ := ih hfailure
    exact ⟨hchannel'.trans hchannel, hfailure'⟩

/-- Every call that needs the connection says why. -/
theorem error?_run_of_failure (k : Errand) (h : c.failure = some reason)
    (hk : k = .metadata → c.metadata = none) : (c.run k).1.error? = some (.faulted reason) := by
  have hask : ∀ q go, carryOut (.ask q go) c = carryOut (go (.error (.faulted reason))) c := by
    intro q go
    rw [carryOut, request_of_failure h]
  rw [run_eq_carryOut]
  cases k with
  | metadata => rw [hk rfl, Plan.of, Plan.metadata, Plan.refresh, hask]; rfl
  | refresh => rw [Plan.of, Plan.refresh, hask]; rfl
  | next =>
    rw [Plan.of]
    cases c.metadata with
    | none => rw [Plan.metadata, Plan.refresh, hask]; rfl
    | some m =>
      dsimp only [Plan.metadata]
      rw [Plan.frame, hask]; rfl
  | execute a => rw [Plan.of, hask]; rfl
  | send body => rw [Plan.of, hask]; rfl
  | request q => rw [Plan.of, hask]; rfl

end

/-! ## What is written needs what was read -/

section
variable (c : Client Connection) (q : Request)

theorem ask_reads (t : RequestType) : ∃ ms, Read c.channel ms (c.ask t q).2.channel := by
  obtain ⟨ch, ⟨hr, -, reason, hc⟩ | ⟨-, ⟨m, hr, hc⟩ | ⟨hr, ⟨-, hc⟩ | ⟨-, reason, hc⟩⟩⟩⟩ :=
    ask_cases c t q <;>
    exact ⟨_, by rw [hc]; exact hr⟩

/-- A reply is owed, or the client is written off. -/
def Stalled (c : Client Connection) : Prop := c.owed.isSome ∨ c.failure.isSome

theorem request_reads : ∃ ms, Read c.channel ms (c.request q).2.channel ∧ (ms = [] → Stalled c →
    (c.request q).2.channel.stream.sent = c.channel.stream.sent ∧ Stalled (c.request q).2) := by
  unfold request
  cases hf : c.failure with
  | some reason => exact ⟨[], .refl _, fun _ h => ⟨rfl, h⟩⟩
  | none =>
    dsimp only
    cases q.type with
    | error e => exact ⟨[], .refl _, fun _ h => ⟨rfl, h⟩⟩
    | ok t =>
      dsimp only
      cases ho : c.owed with
      | none =>
        obtain ⟨ms, hr⟩ := ask_reads c q t
        refine ⟨ms, hr, fun _ h => ?_⟩
        rw [Stalled, hf, ho] at h
        exact absurd h (by simp)
      | some owed =>
        dsimp only
        rcases collect_cases c with ⟨m, hr, hc⟩ | ⟨hr, ⟨-, hc⟩ | ⟨-, reason, hc⟩⟩
        · rw [hc]
          dsimp only
          split
          · exact ⟨[m], hr, nofun⟩
          · obtain ⟨ms, hr'⟩ := ask_reads { c with channel := c.channel.receive.2, owed := none } q t
            exact ⟨[m] ++ ms, hr.trans hr', nofun⟩
        · rw [hc]
          exact ⟨[], hr, fun _ _ => ⟨rfl, .inl (by rw [ho]; rfl)⟩⟩
        · rw [hc]
          exact ⟨[], hr, fun _ _ => ⟨rfl, .inr rfl⟩⟩

/-- While a reply is owed, nothing is written before it was read. -/
theorem carryOut_reads (p : Plan) : ∃ ms, Read c.channel ms (carryOut p c).2.channel ∧
    (ms = [] → Stalled c → (carryOut p c).2.channel.stream.sent = c.channel.stream.sent) := by
  induction p generalizing c with
  | done o known current => exact ⟨[], .refl _, fun _ _ => rfl⟩
  | ask q go ih =>
    obtain ⟨ms, hr, hs⟩ := request_reads c q
    obtain ⟨ms', hr', hs'⟩ := ih (c.request q).1 (c.request q).2
    refine ⟨ms ++ ms', hr.trans hr', fun hnil hstalled => ?_⟩
    obtain ⟨rfl, rfl⟩ := List.append_eq_nil_iff.1 hnil
    obtain ⟨hsent, hstalled'⟩ := hs rfl hstalled
    exact (hs' rfl hstalled').trans hsent

theorem runAll_reads (ks : List Errand) : ∃ ms, Read c.channel ms (runAll ks c).channel := by
  induction ks generalizing c with
  | nil => exact ⟨[], .refl _⟩
  | cons k ks ih =>
    obtain ⟨ms, hr, -⟩ := carryOut_reads c (.of k c.metadata c.frame)
    obtain ⟨ms', hr'⟩ := ih (c.run k).2
    rw [← run_eq_carryOut] at hr
    exact ⟨ms ++ ms', hr.trans hr'⟩

end

/-! ## Calls one after the other -/

/-- A plan goes like this: each of its requests as a request may go, and in step after each. -/
inductive Plan.Goes (start : Connection) :
    Plan → Client Connection → Outcome → Client Connection → Prop
  | done {o : Outcome} {known : Option Metadata} {current : Option Bytes} {c : Client Connection} :
      Goes start (.done o known current) c o { c with metadata := known, frame := current }
  | ask {q : Request} {go : Except FrameError Reply → Plan} {a : Except FrameError Reply} {o : Outcome}
      {c c' c'' : Client Connection} : Trip start q c a c' → InStep start c' →
      Goes start (go a) c' o c'' → Goes start (.ask q go) c o c''

/-- Unless the client is written off, it keeps track of what passed. -/
def Sound (start : Connection) (c : Client Connection) : Prop :=
  c.failure = none → ∃ qs ms, Keeps start qs ms c

section
variable {start : Connection} {c : Client Connection}

theorem Sound.inStep (h : Sound start c) : InStep start c := by
  intro hf
  obtain ⟨qs, ms, hkeeps⟩ := h hf
  exact hkeeps.inStep hf

theorem Sound.request (h : Sound start c) (q : Request) :
    Trip start q c (c.request q).1 (c.request q).2 ∧ Sound start (c.request q).2 := by
  cases hf : c.failure with
  | some reason => rw [request_of_failure hf]; exact ⟨.refused hf, h⟩
  | none =>
    obtain ⟨qs, ms, hkeeps⟩ := h hf
    exact trip_request hkeeps hf

theorem Sound.carryOut (h : Sound start c) (p : Plan) :
    p.Goes start c (carryOut p c).1 (carryOut p c).2 ∧ Sound start (carryOut p c).2 := by
  induction p generalizing c with
  | done o known current =>
    refine ⟨.done, fun hf => ?_⟩
    obtain ⟨qs, ms, hw, hr, ho⟩ := h hf
    exact ⟨qs, ms, hw, hr, ho⟩
  | ask q go ih =>
    obtain ⟨htrip, hsound⟩ := h.request q
    obtain ⟨hgoes, hsound'⟩ := ih (c.request q).1 hsound
    exact ⟨.ask htrip hsound.inStep hgoes, hsound'⟩

theorem Sound.runAll (h : Sound start c) (ks : List Errand) : Sound start (runAll ks c) := by
  induction ks generalizing c with
  | nil => exact h
  | cons k ks ih =>
    refine ih ?_
    show Sound start (c.run k).2
    rw [run_eq_carryOut]
    exact (h.carryOut _).2

theorem sound_start (e : Endpoint) (start : Connection) :
    Sound start { endpoint := e, channel := start } :=
  fun _ => ⟨[], [], .refl start, .refl start, rfl⟩

end

/-- **Requests and replies stay in step.** After any calls on a new client, however what comes is cut into
reads and wherever deadlines pass: what is framed is the beginning of the replies that the server writes
out. The client is in step, and a call goes as its plan, each request answered by its own reply or by the
frame that was owed, unless a deadline passes or the connection fails. While a reply is owed, a call that
reads nothing writes nothing. A client that is written off stays so for the same reason, and neither reads
nor writes. -/
theorem runAll_in_step (e : Endpoint) (start : Connection) (ks : List Errand) (k : Errand) :
    let c := runAll ks { endpoint := e, channel := start }
    let o := (c.run k).1
    let c' := (c.run k).2
    (∀ replies cut, Message.OnWire replies (start.pending ++ cut) → start.inbound <+: replies) ∧
      InStep start c ∧ (Plan.of k c.metadata c.frame).Goes start c o c' ∧
      (c.owed.isSome → readSince start c'.channel = readSince start c.channel →
        c'.channel.stream.sent = c.channel.stream.sent) ∧
      ∀ reason, c.failure = some reason → ∀ later,
        (runAll later c).channel = c.channel ∧ (runAll later c).failure = some reason ∧
          ((k = .metadata → (runAll later c).metadata = none) →
            ((runAll later c).run k).1.error? = some (.faulted reason)) := by
  intro c o c'
  have hsound : Sound start c := (sound_start e start).runAll ks
  refine ⟨fun replies cut h => h.prefix_of_decodeAll, hsound.inStep, ?_, ?_, ?_⟩
  · show Plan.Goes start _ c (c.run k).1 (c.run k).2
    rw [run_eq_carryOut]
    exact (hsound.carryOut _).1
  · intro howed hread
    obtain ⟨ms, hr, hs⟩ := carryOut_reads c (.of k c.metadata c.frame)
    rw [← run_eq_carryOut] at hr hs
    obtain ⟨ms₀, hr₀⟩ := runAll_reads { endpoint := e, channel := start } ks
    have hlen : (ms₀ ++ ms).length = ms₀.length :=
      (hr₀.trans hr).readSince.symm.trans (hread.trans hr₀.readSince)
    refine hs (List.length_eq_zero_iff.1 ?_) (.inl howed)
    rw [List.length_append] at hlen
    omega
  · intro reason hf later
    obtain ⟨hchannel, hfailure⟩ := runAll_of_failure later hf
    exact ⟨hchannel, hfailure, error?_run_of_failure k hfailure⟩

end Client
end FrameFeed
