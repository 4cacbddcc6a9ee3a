import FrameFeed.Exchange.Network
import FrameFeed.Proofs.Session.Course
import FrameFeed.Proofs.Wire.Reception
/-!
# One exchange over a link

Between calls nothing is under way on a link (`Link.Rests`). A message that the client sends then is answered
by its session at once: the answer is the next message that the client receives, after which nothing is under
way again, and no other line of the server was touched (`Link.exchange`).
-/
namespace FrameFeed

/-! ## A connection on which one message passes -/

/-- This is to come on a connection and this was sent, and nothing else is under way. -/
structure Connection.At (limit : Nat) (arrivals : List Arrival) (sent : Bytes) (c : Connection) : Prop where
  limit : c.limit = limit
  buffer : c.buffer = []
  arrivals : c.stream.arrivals = arrivals
  sent : c.stream.sent = sent
  writable : c.stream.Writable

namespace Message

variable {limit : Nat} {m : Message} {w : Bytes}

theorem ne_nil_of_encode (h : m.encode = .ok w) : w ≠ [] := by
  rw [(encode_eq_ok h).2]
  exact nofun

end Message

namespace Connection

variable {limit : Nat} {arrivals : List Arrival} {sent w : Bytes} {c : Connection} {m : Message}

theorem At.send (h : c.At limit arrivals sent) (hm : m.Fits limit) (hw : m.encode = .ok w) :
    (c.send m).1 = .ok () ∧ (c.send m).2.At limit arrivals (sent ++ w) := by
  obtain ⟨hlimit, hbuffer, harrivals, -⟩ := send_sides m c
  obtain ⟨hok, hwritable⟩ := send_of_writable h.writable (h.limit ▸ hm)
  obtain ⟨w', hw', hsent⟩ := sent_of_send hok
  rw [hw] at hw'
  cases hw'
  exact ⟨hok, hlimit.trans h.limit, hbuffer.trans h.buffer, harrivals.trans h.arrivals,
    by rw [hsent, h.sent], hwritable⟩

/-- Where each arrival brings bytes and no byte is to come, there are no arrivals. -/
theorem arrivals_eq_nil {as : List Arrival} (hbrings : ∀ a ∈ as, ∃ b, b ≠ [] ∧ a = .data b)
    (h : Stream.untilStop as = []) : as = [] := by
  cases as with
  | nil => rfl
  | cons a as =>
    obtain ⟨b, hb, rfl⟩ := hbrings a (.head _)
    rw [Stream.untilStop_data hb] at h
    exact absurd (List.append_eq_nil_iff.1 h).1 hb

/-- The one message that is to come is received. -/
theorem At.receive (h : c.At limit [.data w] sent) (hm : m.Fits limit) (hw : m.encode = .ok w) :
    c.receive.1 = .ok m ∧ c.receive.2.At limit [] sent := by
  have hne := Message.ne_nil_of_encode hw
  have hahead : c.ahead = w := by
    rw [ahead, h.buffer, h.arrivals, Stream.untilStop_data hne]
    exact List.append_nil w
  have hdecode : Message.decode c.limit c.ahead = .ok (some (m, [])) := by
    have hencode := @Message.decode_of_encode limit _ _ hw []
    rw [if_neg (Nat.not_lt.2 hm.1), List.append_nil] at hencode
    rw [hahead, h.limit, hencode]
  have hreceive := receive_ahead c
  rw [hdecode] at hreceive
  obtain ⟨hok, hrest, -⟩ := hreceive
  obtain ⟨hbuffer, hstop⟩ := List.append_eq_nil_iff.1 hrest
  have hbrings : ∀ a ∈ c.receive.2.stream.arrivals, ∃ b, b ≠ [] ∧ a = .data b := by
    refine collect_arrivals (P := fun a => ∃ b, b ≠ [] ∧ a = .data b) ?_ ?_
    · intro b n hn _
      exact ⟨_, drop_ne_nil hn, rfl⟩
    · intro a ha
      rw [h.arrivals, List.mem_singleton] at ha
      exact ⟨w, hne, ha⟩
  exact ⟨hok, h.limit, hbuffer, arrivals_eq_nil hbrings hstop, h.sent, writable_receive h.writable⟩

/-- Nothing is to come. -/
theorem At.receive_nothing (h : c.At limit [] sent) :
    c.receive.1 = .error (stopError c.stream.ending) ∧ c.receive.2.At limit [] sent := by
  have hahead : c.ahead = [] := by rw [ahead, h.buffer, h.arrivals]; rfl
  have hreceive := receive_ahead c
  rw [hahead] at hreceive
  have herror : c.receive.1 = .error (stopError c.stream.ending) := by
    rw [show c.stream.ending = c.stop by rw [stop, h.arrivals]; rfl]
    exact hreceive
  have hpending := pending_of_receive_error herror
  rw [pending, pending, h.buffer, h.arrivals] at hpending
  have hnothing : c.receive.2.stream.arrivals = [] := by
    refine List.eq_nil_iff_forall_not_mem.2 ?_
    refine collect_arrivals (P := fun _ => False) (fun _ _ _ hfalse => hfalse) ?_
    rw [h.arrivals]
    intro a ha
    cases ha
  exact ⟨herror, h.limit, (List.append_eq_nil_iff.1 hpending).1, hnothing, h.sent,
    writable_receive h.writable⟩

end Connection

/-! ## A session that answers one message -/

/-- A session that meets one message answers it and waits for the next. -/
theorem Session.run_one {τ : Type} {router : Router τ} {limit : Nat} {w : Bytes} {c : Connection}
    {m : Message} {r : Reply} {s : τ} (h : c.At limit [.data w] []) (hending : c.stream.ending = some Server.pending)
    (hm : m.Fits limit) (hw : m.encode = .ok w) (hr : (answer router m s).1.reply? = some r)
    (hfits : r.toMessage.Fits limit) :
    ∃ c' w', run router c s = (.idle, c', (answer router m s).2) ∧ r.toMessage.encode = .ok w' ∧
      c'.At limit [] w' ∧ c'.stream.ending = some Server.pending := by
  obtain ⟨w', hw'⟩ := hfits.encode
  obtain ⟨hreceive, hreceived⟩ := h.receive hm hw
  obtain ⟨hsend, hsent⟩ := hreceived.send hfits hw'
  have hdeliver : deliver r c.receive.2 = (none, (c.receive.2.send r.toMessage).2) := by
    rw [deliver, show Channel.send r.toMessage c.receive.2 = (.ok (), (c.receive.2.send r.toMessage).2) from
      Prod.ext hsend rfl]
  have hanswered := turn_reply hreceive hr
  rw [hdeliver] at hanswered
  have hending' : (c.receive.2.send r.toMessage).2.stream.ending = some Server.pending :=
    (Connection.send_sides _ _).2.2.2.trans hending
  obtain ⟨hnothing, hrest⟩ := hsent.receive_nothing
  have hstop : (c.receive.2.send r.toMessage).2.stop = some Server.pending := by
    rw [Connection.stop, hsent.arrivals]
    exact hending'
  rw [show (c.receive.2.send r.toMessage).2.stream.ending = (c.receive.2.send r.toMessage).2.stop by
    rw [hending', hstop]] at hnothing
  have htimeout : ∀ e, (c.receive.2.send r.toMessage).2.stop = some e → e.isTimeout = true := by
    rw [hstop]
    intro e he
    cases he; rfl
  have hidle : turn router (c.receive.2.send r.toMessage).2 (answer router m s).2 = _ :=
    turn_stop hnothing htimeout
  rw [hstop] at hidle
  refine ⟨_, w', (run_of_turn hanswered).trans (run_of_end hidle), hw', hrest, hending'⟩

/-! ## The lines of a server -/

variable {τ : Type}

/-- A line on which nothing is under way: the session waits for a request. -/
structure Line.Rests (limit : Nat) (line : Line) : Prop where
  stage : line.stage = .serving
  shut : line.shut = false
  connection : line.connection.At limit [] []
  ending : line.connection.stream.ending = some Server.pending

namespace Server

/-- The server has come to another state by what passed over one of its lines. -/
structure Beside (id : Nat) (s s' : Server τ) : Prop where
  router : s'.router = s.router
  settings : s'.settings = s.settings
  stopping : s'.stopping = s.stopping
  nextId : s'.nextId = s.nextId
  ids : s'.lines.map (·.id) = s.lines.map (·.id)
  others : ∀ id', id' ≠ id → s'.line? id' = s.line? id'

variable {s s' s'' : Server τ} {id id' : Nat} {line : Line} {f : Line → Line}

theorem Beside.refl (id : Nat) (s : Server τ) : Beside id s s := ⟨rfl, rfl, rfl, rfl, rfl, fun _ _ => rfl⟩

theorem Beside.trans (h : Beside id s s') (h' : Beside id s' s'') : Beside id s s'' := by
  refine ⟨h'.router.trans h.router, h'.settings.trans h.settings, h'.stopping.trans h.stopping,
    h'.nextId.trans h.nextId, h'.ids.trans h.ids, fun id' hne => ?_⟩
  exact (h'.others id' hne).trans (h.others id' hne)

/-- No line gets another number. -/
theorem Beside.below (h : Beside id s s') {n : Nat} (hids : ∀ line ∈ s.lines, line.id < n) :
    ∀ line ∈ s'.lines, line.id < n := by
  intro line hline
  have hmem : line.id ∈ s.lines.map (·.id) := by
    rw [← h.ids]
    exact List.mem_map_of_mem hline
  obtain ⟨line', hline', hsame⟩ := List.mem_map.1 hmem
  rw [← hsame]
  exact hids line' hline'

theorem line?_modify (hid : ∀ l, (f l).id = l.id) (s : Server τ) (id id' : Nat) :
    (s.modify id f).line? id' = (s.line? id').map fun l => if l.id = id then f l else l := by
  rw [line?, modify, List.find?_map, line?]
  congr 2
  funext l
  simp only [Function.comp]
  split
  · rw [hid]
  · rfl

theorem id_of_line? (h : s.line? id = some line) : line.id = id := by
  simpa using List.find?_some h

theorem line?_modify_self (hid : ∀ l, (f l).id = l.id) (h : s.line? id = some line) :
    (s.modify id f).line? id = some (f line) := by
  rw [line?_modify hid, h, Option.map_some, if_pos (id_of_line? h)]

theorem beside_modify (hid : ∀ l, (f l).id = l.id) (s : Server τ) (id : Nat) :
    Beside id s (s.modify id f) := by
  refine ⟨rfl, rfl, rfl, rfl, ?_, fun id' hne => ?_⟩
  · rw [modify, List.map_map]
    congr 1
    funext l
    simp only [Function.comp]
    split
    · exact hid l
    · rfl
  · rw [line?_modify hid]
    cases h : s.line? id' with
    | none => rfl
    | some l =>
      rw [Option.map_some, if_neg]
      rw [id_of_line? h]
      exact hne

/-- A session that goes on is not forgotten. -/
theorem forget_serving (h : s.line? id = some line) (hstage : line.stage = .serving) :
    (s.forget id).line? id = some line ∧ (s.forget id).service = s.service ∧ Beside id s (s.forget id) := by
  unfold forget
  refine ⟨(line?_modify_self ?_ h).trans ?_, rfl, beside_modify ?_ s id⟩
  · intro l
    split <;> rfl
  · rw [hstage]
  · intro l
    split <;> rfl

/-- A connection that was accepted is served. -/
theorem register_queued (h : s.line? id = some line) (hqueued : line.stage = .queued)
    (hstopping : s.stopping = false)
    (hdeadlines : Connection.setDeadlines s.settings.idleTimeout s.settings.writeTimeout = .ok ()) :
    (s.register id).line? id = some { line with stage := .serving, tracked := true } ∧
      (s.register id).service = s.service ∧ Beside id s (s.register id) := by
  rw [register, hdeadlines, enter, hstopping]
  refine ⟨(line?_modify_self ?_ h).trans ?_, rfl, beside_modify ?_ s id⟩
  · intro l
    split <;> rfl
  · rw [hqueued]; rfl
  · intro l
    split <;> rfl

/-- One message that arrives is answered. -/
theorem arrive_one {limit : Nat} {m : Message} {w : Bytes} {r : Reply} (h : s.line? id = some line)
    (hrests : line.Rests limit) (hm : m.Fits limit) (hw : m.encode = .ok w)
    (hr : (Session.answer s.router m s.service).1.reply? = some r) (hfits : r.toMessage.Fits limit) :
    ∃ line' w', (s.arrive id w).line? id = some line' ∧ line'.stage = .serving ∧ line'.shut = false ∧
      line'.connection.At limit [] w' ∧ line'.connection.stream.ending = some pending ∧
      r.toMessage.encode = .ok w' ∧
      (s.arrive id w).service = (Session.answer s.router m s.service).2 ∧ Beside id s (s.arrive id w) := by
  have hempty : w.isEmpty = false := by
    cases w with
    | nil => exact absurd rfl (Message.ne_nil_of_encode hw)
    | cons => rfl
  have hat : ({ line.connection with
      stream := { line.connection.stream with
        arrivals := line.connection.stream.arrivals ++ [.data w] } } : Connection).At limit [.data w] [] := by
    obtain ⟨hlimit, hbuffer, harrivals, hsent, hwritable⟩ := hrests.connection
    refine ⟨hlimit, hbuffer, ?_, hsent, hwritable.acceptances, hwritable.refusal, hwritable.flushes⟩
    rw [harrivals]; rfl
  obtain ⟨c, w', hrun, hw', hc, hending⟩ := Session.run_one hat hrests.ending hm hw hr hfits
  have harrive : s.arrive id w =
      ({ s with service := (Session.answer s.router m s.service).2 } : Server τ).modify id
        fun l => { l with connection := c, stage := .serving } := by
    simp only [arrive, serve, h, hrests.stage, ne_eq, not_true, if_false, hempty, Bool.false_eq_true, hrun,
      if_true]
  have hline : ({ s with service := (Session.answer s.router m s.service).2 } : Server τ).line? id =
      some line := h
  rw [harrive]
  refine ⟨_, w', line?_modify_self (by intro _; rfl) hline, rfl, hrests.shut, hc, hending, hw', rfl, ?_⟩
  have hservice : Beside id s { s with service := (Session.answer s.router m s.service).2 } :=
    ⟨rfl, rfl, rfl, rfl, rfl, fun _ _ => rfl⟩
  exact hservice.trans (beside_modify (by intro _; rfl) _ id)

end Server

/-! ## The link -/

namespace Link

variable {l : Link τ} {limit serverLimit : Nat}

/-- Nothing is under way between the client and its session. -/
structure Rests (limit serverLimit : Nat) (l : Link τ) : Prop where
  connection : l.connection.At limit [] []
  line : ∃ line, l.server.line? l.id = some line ∧ line.Rests serverLimit

/-- What the session wrote is to come, and the session waits. -/
theorem gather_spec {line : Line} {arrivals : List Arrival} {w sent : Bytes}
    (h : l.connection.At limit arrivals sent) (hline : l.server.line? l.id = some line)
    (hstage : line.stage = .serving) (hshut : line.shut = false) (hat : line.connection.At serverLimit [] w)
    (hending : line.connection.stream.ending = some Server.pending) :
    l.gather.id = l.id ∧
      l.gather.connection.At limit (if w.isEmpty then arrivals else arrivals ++ [.data w]) sent ∧
      (∃ line', l.gather.server.line? l.id = some line' ∧ line'.Rests serverLimit) ∧
      l.gather.server.service = l.server.service ∧ Server.Beside l.id l.server l.gather.server := by
  have hopen : line.isClosed = false := by
    rw [Line.isClosed, hshut, hstage]; rfl
  unfold gather
  rw [hline]
  simp only [hopen, Bool.false_eq_true, if_false]
  refine ⟨trivial, ⟨h.limit, h.buffer, ?_, h.sent, h.writable.acceptances, rfl, h.writable.flushes⟩,
    ⟨_, Server.line?_modify_self (by intro _; rfl) hline, hstage, hshut, ?_, hending⟩, rfl,
    Server.beside_modify (by intro _; rfl) _ _⟩
  · rw [hat.sent, h.arrivals]
  · exact ⟨hat.limit, hat.buffer, hat.arrivals, rfl, hat.writable.acceptances, hat.writable.refusal,
      hat.writable.flushes⟩

/-- Gathering does nothing where the session wrote nothing. -/
theorem gather_nothing {arrivals : List Arrival} {sent : Bytes} (h : l.connection.At limit arrivals sent)
    (hline : ∃ line, l.server.line? l.id = some line ∧ line.Rests serverLimit) :
    l.gather.id = l.id ∧ l.gather.connection.At limit arrivals sent ∧
      (∃ line, l.gather.server.line? l.id = some line ∧ line.Rests serverLimit) ∧
      l.gather.server.service = l.server.service ∧ Server.Beside l.id l.server l.gather.server := by
  obtain ⟨line, hline, hrests⟩ := hline
  exact gather_spec h hline hrests.stage hrests.shut hrests.connection hrests.ending

variable {m : Message} {r : Reply} {w : Bytes}

/-- What the client wrote is handed over and answered, and the answer is to come. -/
theorem forward_spec (h : l.connection.At limit [] w)
    (hline : ∃ line, l.server.line? l.id = some line ∧ line.Rests serverLimit) (hm : m.Fits serverLimit)
    (hw : m.encode = .ok w) (hr : (Session.answer l.server.router m l.server.service).1.reply? = some r)
    (hfits : r.toMessage.Fits serverLimit) :
    ∃ w', r.toMessage.encode = .ok w' ∧ l.forward.id = l.id ∧ l.forward.connection.At limit [.data w'] [] ∧
      (∃ line, l.forward.server.line? l.id = some line ∧ line.Rests serverLimit) ∧
      l.forward.server.service = (Session.answer l.server.router m l.server.service).2 ∧
      Server.Beside l.id l.server l.forward.server := by
  obtain ⟨line, hline, hrests⟩ := hline
  obtain ⟨line₁, w', hline₁, hstage, hshut, hat, hending, hw', hservice₁, hbeside₁⟩ :=
    Server.arrive_one hline hrests hm hw hr hfits
  obtain ⟨hline₂, hservice₂, hbeside₂⟩ := Server.forget_serving hline₁ hstage
  have hhanded : ({ l.connection with stream := { l.connection.stream with sent := [] } } : Connection).At
      limit [] [] :=
    ⟨h.limit, h.buffer, h.arrivals, rfl, h.writable.acceptances, h.writable.refusal, h.writable.flushes⟩
  have hanswered : w'.isEmpty = false := by
    cases w' with
    | nil => exact absurd rfl (Message.ne_nil_of_encode hw')
    | cons => rfl
  unfold forward
  rw [h.sent]
  obtain ⟨hid₃, hconnection₃, hrests₃, hservice₃, hbeside₃⟩ :=
    gather_spec (l := ⟨(l.server.arrive l.id w).forget l.id, l.id, _⟩) hhanded hline₂ hstage hshut hat hending
  rw [hanswered] at hconnection₃
  exact ⟨w', hw', hid₃, hconnection₃, hrests₃, (hservice₃.trans hservice₂).trans hservice₁,
    (hbeside₁.trans hbeside₂).trans hbeside₃⟩

/-- A message that the client sends is answered, and the answer is to come. -/
theorem send_spec (h : l.Rests limit serverLimit) (hm : m.Fits limit) (hm' : m.Fits serverLimit)
    (hr : (Session.answer l.server.router m l.server.service).1.reply? = some r)
    (hfits : r.toMessage.Fits serverLimit) :
    ∃ l' w, Channel.send m l = (.ok (), l') ∧ r.toMessage.encode = .ok w ∧ l'.id = l.id ∧
      l'.connection.At limit [.data w] [] ∧
      (∃ line, l'.server.line? l.id = some line ∧ line.Rests serverLimit) ∧
      l'.server.service = (Session.answer l.server.router m l.server.service).2 ∧
      Server.Beside l.id l.server l'.server := by
  obtain ⟨w, hw⟩ := hm.encode
  obtain ⟨hid, hconnection, hline, hservice, hbeside⟩ := gather_nothing h.connection h.line
  obtain ⟨hsend, hsent⟩ := hconnection.send hm hw
  have hchannel : Channel.send m l = ((l.gather.connection.send m).1,
      ({ l.gather with connection := (l.gather.connection.send m).2 } : Link τ).forward) := rfl
  rw [← hid] at hline
  rw [← hbeside.router, ← hservice] at hr ⊢
  obtain ⟨w', hw', hid', hconnection', hline', hservice', hbeside'⟩ :=
    forward_spec (l := { l.gather with connection := (l.gather.connection.send m).2 }) hsent hline hm' hw hr
      hfits
  rw [hsend] at hchannel
  refine ⟨_, w', hchannel, hw', hid'.trans hid, hconnection', ?_, hservice', ?_⟩
  · rw [← hid]; exact hline'
  · rw [← hid] at hbeside ⊢
    exact hbeside.trans hbeside'

/-- The message that is to come is received. -/
theorem receive_spec (h : l.connection.At limit [.data w] [])
    (hline : ∃ line, l.server.line? l.id = some line ∧ line.Rests serverLimit) (hm : m.Fits limit)
    (hw : m.encode = .ok w) :
    ∃ l', Channel.receive l = (.ok m, l') ∧ l'.id = l.id ∧ l'.Rests limit serverLimit ∧
      l'.server.service = l.server.service ∧ Server.Beside l.id l.server l'.server := by
  obtain ⟨hid, hconnection, hline', hservice, hbeside⟩ := gather_nothing h hline
  obtain ⟨hreceive, hreceived⟩ := hconnection.receive hm hw
  have hchannel : Channel.receive l =
      (l.gather.connection.receive.1, { l.gather with connection := l.gather.connection.receive.2 }) := rfl
  rw [hreceive] at hchannel
  exact ⟨_, hchannel, hid, ⟨hreceived, by rw [hid]; exact hline'⟩, hservice, hbeside⟩

/-- **An exchange.** A message that the client sends is answered by its session, and the answer is the next
message that the client receives. -/
theorem exchange (h : l.Rests limit serverLimit) (hm : m.Fits limit) (hm' : m.Fits serverLimit)
    (hr : (Session.answer l.server.router m l.server.service).1.reply? = some r)
    (hfits : r.toMessage.Fits limit) (hfits' : r.toMessage.Fits serverLimit) :
    ∃ l₁ l₂, Channel.send m l = (.ok (), l₁) ∧ Channel.receive l₁ = (.ok r.toMessage, l₂) ∧ l₂.id = l.id ∧
      l₂.Rests limit serverLimit ∧
      l₂.server.service = (Session.answer l.server.router m l.server.service).2 ∧
      Server.Beside l.id l.server l₂.server := by
  obtain ⟨l₁, w, hsend, hw, hid₁, hconnection₁, hline₁, hservice₁, hbeside₁⟩ := send_spec h hm hm' hr hfits'
  rw [← hid₁] at hline₁
  obtain ⟨l₂, hreceive, hid₂, hrests₂, hservice₂, hbeside₂⟩ := receive_spec hconnection₁ hline₁ hfits hw
  rw [hid₁] at hbeside₂
  exact ⟨l₁, l₂, hsend, hreceive, hid₂.trans hid₁, hrests₂, hservice₂.trans hservice₁, hbeside₁.trans hbeside₂⟩

end Link

/-- A client that owes nothing is answered by its session. -/
theorem Client.request_over_link {c : Client (Link τ)} {limit serverLimit : Nat} {q : Request}
    {t : RequestType} {r : Reply} (hfailure : c.failure = none) (howed : c.owed = none) (ht : q.type = .ok t)
    (hlink : c.channel.Rests limit serverLimit) (hq : q.toMessage.Fits limit)
    (hq' : q.toMessage.Fits serverLimit)
    (hr : (Session.answer c.channel.server.router q.toMessage c.channel.server.service).1.reply? = some r)
    (hfits : r.toMessage.Fits limit) (hfits' : r.toMessage.Fits serverLimit) :
    ∃ l, c.request q = (Reply.ofMessage r.toMessage, { c with channel := l, owed := none }) ∧
      l.id = c.channel.id ∧ l.Rests limit serverLimit ∧
      l.server.service = (Session.answer c.channel.server.router q.toMessage c.channel.server.service).2 ∧
      Server.Beside c.channel.id c.channel.server l.server := by
  obtain ⟨l₁, l₂, hsend, hreceive, hid, hrests, hservice, hbeside⟩ :=
    Link.exchange hlink hq hq' hr hfits hfits'
  refine ⟨l₂, ?_, hid, hrests, hservice, hbeside⟩
  simp only [request, hfailure, ht, howed, ask, hsend, collect, hreceive]

/-! ## A client connects -/

/-- A client that connects to a server that serves finds a link at rest, and the other lines stay as they
are. -/
theorem Link.dial_spec (limit : Nat) {s : Server τ} (hids : ∀ line ∈ s.lines, line.id < s.nextId)
    (hstopping : s.stopping = false)
    (hdeadlines : Connection.setDeadlines s.settings.idleTimeout s.settings.writeTimeout = .ok ()) :
    (Link.dial limit s).id = s.nextId ∧ (Link.dial limit s).Rests limit s.settings.maxPayload ∧
      (Link.dial limit s).server.router = s.router ∧ (Link.dial limit s).server.service = s.service ∧
      (Link.dial limit s).server.settings = s.settings ∧ (Link.dial limit s).server.stopping = s.stopping ∧
      (Link.dial limit s).server.nextId = s.nextId + 1 ∧
      (∀ line ∈ (Link.dial limit s).server.lines, line.id < s.nextId + 1) ∧
      ∀ id, id ≠ s.nextId → (Link.dial limit s).server.line? id = s.line? id := by
  have hnew : s.lines.find? (·.id = s.nextId) = none := by
    refine List.find?_eq_none.2 fun line hline => ?_
    have := hids line hline
    simp only [decide_eq_true_eq]
    omega
  have hothers : ∀ id, id ≠ s.nextId → s.accept.line? id = s.line? id := by
    intro id hne
    simp [Server.line?, Server.accept, Ne.symm hne]
  have haccepted : ∃ line, s.accept.line? s.nextId = some line ∧ line.stage = .queued ∧ line.shut = false ∧
      line.connection.At s.settings.maxPayload [] [] ∧
      line.connection.stream.ending = some Server.pending := by
    refine ⟨_, by rw [Server.line?, Server.accept, List.find?_append, hnew]; simp; rfl, ?_, rfl, ?_, rfl⟩
    · simp [hstopping]
    · exact ⟨rfl, rfl, rfl, rfl, by simp, rfl, by simp⟩
  obtain ⟨line, hline, hqueued, hshut, hat, hending⟩ := haccepted
  obtain ⟨hline₁, hservice₁, hbeside₁⟩ := Server.register_queued hline hqueued hstopping hdeadlines
  obtain ⟨hline₂, hservice₂, hbeside₂⟩ := Server.forget_serving hline₁ rfl
  have hbeside := hbeside₁.trans hbeside₂
  refine ⟨rfl, ⟨⟨rfl, rfl, rfl, rfl, by simp [dial], rfl, by simp [dial]⟩, _, hline₂, rfl, hshut, hat, hending⟩,
    hbeside.router, hservice₂.trans hservice₁, hbeside.settings, hbeside.stopping, hbeside.nextId,
    hbeside.below ?_, fun id hne => (hbeside.others id hne).trans (hothers id hne)⟩
  intro line' hline'
  rw [Server.accept, List.mem_append] at hline'
  rcases hline' with hold | hnew
  · exact Nat.lt_succ_of_lt (hids line' hold)
  · rw [List.mem_singleton.1 hnew]
    exact Nat.lt_succ_self _

end FrameFeed
