import FrameFeed.Proofs.Wire.Traffic
/-!
# What a writer does to its stream

A stream is called once for each write and once for each flush (`Stream.offer`, `Stream.push`). It may take
fewer bytes than it is offered, ask for the call to be made again, take nothing more, or fail. `Stream.Calls` is
what was done to a stream, call by call; `Writing` and `Flushing` are how a writer goes about it. From these
follows what a message that is sent leaves on its stream, however the stream behaves (`Connection.send_emits`).
-/
namespace FrameFeed

/-- One call to a stream, and what the stream said. -/
inductive StreamCall where
  /-- The stream took as many of the bytes offered as it said. -/
  | write (offered : Bytes) (said : Except IoError Nat)
  | flush (said : Except IoError Unit)
deriving DecidableEq

namespace StreamCall

/-- The bytes that the stream took in a call. -/
def taken : StreamCall → Bytes
  | write offered (.ok n) => offered.take n
  | _ => []

/-- The bytes that the stream took in some calls. -/
def allTaken (calls : List StreamCall) : Bytes := calls.flatMap taken

/-- After such a call there is more to do: some bytes were taken, or the call is to be made again. -/
def Proceeds : StreamCall → Prop
  | write _ (.ok n) => 0 < n
  | write _ (.error e) | flush (.error e) => e.kind = .interrupted
  | flush (.ok ()) => False

/-- Each write offers bytes that come next in `w`: none that the stream took is offered again, and none is
passed by. -/
def InOrder : Bytes → List StreamCall → Prop
  | _, [] => True
  | w, .write b said :: calls => (b ≠ [] ∧ b <+: w) ∧ InOrder (w.drop (write b said).taken.length) calls
  | w, .flush _ :: calls => InOrder w calls

variable {w : Bytes} {calls calls' : List StreamCall}

theorem allTaken_append (calls calls' : List StreamCall) :
    allTaken (calls ++ calls') = allTaken calls ++ allTaken calls' := List.flatMap_append

theorem taken_prefix {b : Bytes} (said : Except IoError Nat) (h : b <+: w) : (write b said).taken <+: w := by
  cases said with
  | ok n => exact (List.take_prefix n b).trans h
  | error e => exact List.nil_prefix

/-- What was offered in order was taken in order. -/
theorem InOrder.allTaken_prefix (h : InOrder w calls) : allTaken calls <+: w := by
  induction calls generalizing w with
  | nil => exact List.nil_prefix
  | cons call calls ih =>
    cases call with
    | flush said => exact ih h
    | write b said =>
      obtain ⟨⟨-, hb⟩, h⟩ := h
      have hfront := taken_prefix said hb
      obtain ⟨rest, hrest⟩ := hfront
      have hafter := ih h
      rw [← hrest, List.drop_left] at hafter
      rw [← hrest]
      exact (List.prefix_append_right_inj _).2 hafter

theorem InOrder.append (h : InOrder w calls) (h' : InOrder (w.drop (allTaken calls).length) calls') :
    InOrder w (calls ++ calls') := by
  induction calls generalizing w with
  | nil => exact h'
  | cons call calls ih =>
    cases call with
    | flush said => exact ih h h'
    | write b said =>
      obtain ⟨hb, h⟩ := h
      refine ⟨hb, ih h ?_⟩
      rwa [List.drop_drop, ← List.length_append]

end StreamCall

open StreamCall (allTaken allTaken_append InOrder)

/-! ## Calls to a stream -/

namespace Stream

/-- One write. -/
def offer (b : Bytes) (s : Stream) : Except IoError Nat × Stream :=
  match s.acceptances, s.refusal with
  | .takes n :: as, _ => (.ok (min n b.length), { s with acceptances := as, sent := s.sent ++ b.take n })
  | .failed e :: as, _ => (.error e, { s with acceptances := as })
  | [], none => (.ok b.length, { s with sent := s.sent ++ b })
  | [], some e => (.error e, s)

/-- One flush. -/
def push (s : Stream) : Except IoError Unit × Stream :=
  match s.flushes with
  | [] => (.ok (), { s with flushed := s.flushed + 1 })
  | none :: fs => (.ok (), { s with flushes := fs, flushed := s.flushed + 1 })
  | some e :: fs => (.error e, { s with flushes := fs })

/-- These calls lead from one state of the stream to the other. -/
inductive Calls : Stream → List StreamCall → Stream → Prop where
  | none (s : Stream) : Calls s [] s
  | write {s s₁ s' : Stream} {b : Bytes} {said : Except IoError Nat} {calls : List StreamCall}
    (ho : s.offer b = (said, s₁)) (h : Calls s₁ calls s') : Calls s (.write b said :: calls) s'
  | flush {s s₁ s' : Stream} {said : Except IoError Unit} {calls : List StreamCall} (hp : s.push = (said, s₁))
    (h : Calls s₁ calls s') : Calls s (.flush said :: calls) s'

/-- The stream does not ask for ever that a write be made again. -/
def Settles (s : Stream) : Prop := ∀ e, s.refusal = some e → e.kind ≠ .interrupted

variable {s s' s'' : Stream} {calls calls' : List StreamCall}

theorem Calls.append (h : Calls s calls s') (h' : Calls s' calls' s'') : Calls s (calls ++ calls') s'' := by
  induction h with
  | none => exact h'
  | write ho _ ih => exact .write ho (ih h')
  | flush hp _ ih => exact .flush hp (ih h')

/-- A write adds to the stream what it takes. -/
theorem offer_spec {b : Bytes} {said : Except IoError Nat} (ho : s.offer b = (said, s')) :
    s'.sent = s.sent ++ (StreamCall.write b said).taken ∧ s'.refusal = s.refusal := by
  unfold offer at ho
  split at ho <;> cases ho <;> simp [StreamCall.taken, List.take_eq_take_iff]

theorem push_spec {said : Except IoError Unit} (hp : s.push = (said, s')) :
    s'.sent = s.sent ∧ s'.refusal = s.refusal := by
  unfold push at hp
  split at hp <;> cases hp <;> exact ⟨rfl, rfl⟩

/-- What stands on a stream is what it took. -/
theorem Calls.sent_eq (h : Calls s calls s') : s'.sent = s.sent ++ allTaken calls := by
  induction h with
  | none => exact (List.append_nil _).symm
  | write ho _ ih =>
    rw [ih, (offer_spec ho).1, List.append_assoc]
    rfl
  | flush hp _ ih =>
    rw [ih, (push_spec hp).1]
    rfl

theorem Calls.settles (h : Calls s calls s') (hs : s.Settles) : s'.Settles := by
  induction h with
  | none => exact hs
  | write ho _ ih => exact ih (by rwa [Settles, (offer_spec ho).2])
  | flush hp _ ih => exact ih (by rwa [Settles, (push_spec hp).2])

end Stream

/-! ## How a writer goes about it -/

/-- The calls that write some bytes, all of them or up to a failure: each offers the bytes that are left. -/
inductive Writing : Bytes → List StreamCall → Except WireError Unit → Prop where
  | done : Writing [] [] (.ok ())
  | takes {b : Bytes} {n : Nat} {calls : List StreamCall} {r : Except WireError Unit} (hb : b ≠ []) (hn : 0 < n)
    (hle : n ≤ b.length) (h : Writing (b.drop n) calls r) : Writing b (.write b (.ok n) :: calls) r
  | again {b : Bytes} {e : IoError} {calls : List StreamCall} {r : Except WireError Unit} (hb : b ≠ [])
    (he : e.kind = .interrupted) (h : Writing b calls r) : Writing b (.write b (.error e) :: calls) r
  | closed {b : Bytes} (hb : b ≠ []) : Writing b [.write b (.ok 0)] (.error .closed)
  | failed {b : Bytes} {e : IoError} (hb : b ≠ []) (he : e.kind ≠ .interrupted) :
    Writing b [.write b (.error e)] (.error (.io e))

/-- The calls that flush a stream, again and again while it asks for that. -/
inductive Flushing : List StreamCall → Except WireError Unit → Prop where
  | done : Flushing [.flush (.ok ())] (.ok ())
  | again {e : IoError} {calls : List StreamCall} {r : Except WireError Unit} (he : e.kind = .interrupted)
    (h : Flushing calls r) : Flushing (.flush (.error e) :: calls) r
  | failed {e : IoError} (he : e.kind ≠ .interrupted) : Flushing [.flush (.error e)] (.error (.io e))

namespace Stream

variable {s : Stream}

/-- Each round of a write is one write to the stream, of what is left. -/
theorem calls_write_go (hs : s.Settles) (b taken : Bytes) (as : List Acceptance) :
    ∃ calls, Calls { s with acceptances := as, sent := s.sent ++ taken } calls
        { s with acceptances := (write.go s b taken as).2.2, sent := s.sent ++ (write.go s b taken as).2.1 } ∧
      Writing b calls (write.go s b taken as).1 := by
  fun_induction write.go s b taken as with
  | case1 => exact ⟨[], .none _, .done⟩
  | case2 taken c b hr =>
    refine ⟨[.write (c :: b) (.ok (c :: b).length)], .write ?_ (.none _),
      .takes (List.cons_ne_nil _ _) (Nat.succ_pos _) (Nat.le_refl _) ?_⟩
    · simp [offer, hr]
    · rw [List.drop_length]
      exact .done
  | case3 taken c b e hr =>
    refine ⟨[.write (c :: b) (.error e)], .write ?_ (.none _), .failed (List.cons_ne_nil _ _) (hs e hr)⟩
    simp [offer, hr]
  | case4 taken c b as =>
    refine ⟨[.write (c :: b) (.ok 0)], .write ?_ (.none _), .closed (List.cons_ne_nil _ _)⟩
    simp [offer]
  | case5 taken b n as hb hn ih =>
    obtain ⟨calls, hcalls, hwriting⟩ := ih
    have hpos : 0 < b.length := List.length_pos_iff.2 hb
    have hn : n ≠ 0 := by
      obtain ⟨c, rest, hcons⟩ := List.exists_cons_of_ne_nil hb
      exact hn c rest hcons
    refine ⟨.write b (.ok (min n b.length)) :: calls, .write ?_ hcalls,
      .takes hb (by omega) (Nat.min_le_right _ _) ?_⟩
    · simp [offer]
    · rwa [show b.drop (min n b.length) = b.drop n by simp [List.drop_eq_drop_iff]]
  | case6 taken b e as hb he ih =>
    obtain ⟨calls, hcalls, hwriting⟩ := ih
    refine ⟨.write b (.error e) :: calls, .write ?_ hcalls, .again hb he hwriting⟩
    simp [offer]
  | case7 taken b e as hb he =>
    refine ⟨[.write b (.error e)], .write ?_ (.none _), .failed hb he⟩
    simp [offer]

theorem calls_write (hs : s.Settles) (b : Bytes) :
    ∃ calls, s.Calls calls (s.write b).2 ∧ Writing b calls (s.write b).1 := by
  obtain ⟨calls, hcalls, hwriting⟩ := calls_write_go hs b [] s.acceptances
  rw [List.append_nil] at hcalls
  exact ⟨calls, hcalls, hwriting⟩

/-- Each round of a flush is one flush of the stream. -/
theorem calls_flush_go (s : Stream) (fs : List (Option IoError)) :
    ∃ calls, Calls { s with flushes := fs } calls
        { s with flushes := (flush.go fs).2.1, flushed := s.flushed + (flush.go fs).2.2 } ∧
      Flushing calls (flush.go fs).1 := by
  fun_induction flush.go fs with
  | case1 => exact ⟨[.flush (.ok ())], .flush rfl (.none _), .done⟩
  | case2 fs => exact ⟨[.flush (.ok ())], .flush rfl (.none _), .done⟩
  | case3 e fs he ih =>
    obtain ⟨calls, hcalls, hflushing⟩ := ih
    exact ⟨.flush (.error e) :: calls, .flush rfl hcalls, .again he hflushing⟩
  | case4 e fs he => exact ⟨[.flush (.error e)], .flush rfl (.none _), .failed he⟩

theorem calls_flush (s : Stream) : ∃ calls, s.Calls calls s.flush.2 ∧ Flushing calls s.flush.1 :=
  calls_flush_go s s.flushes

end Stream

/-! ## What becomes of the bytes -/

/-- A write put an end to some calls, and before it there was more to do after each. -/
inductive Stopped : List StreamCall → WireError → Prop where
  | closed {before : List StreamCall} {b : Bytes} (hbefore : ∀ call ∈ before, call.Proceeds) :
    Stopped (before ++ [.write b (.ok 0)]) .closed
  | failed {before : List StreamCall} {b : Bytes} {e : IoError} (hbefore : ∀ call ∈ before, call.Proceeds)
    (he : e.kind ≠ .interrupted) : Stopped (before ++ [.write b (.error e)]) (.io e)

theorem Stopped.append {before calls : List StreamCall} {e : WireError} (h : Stopped calls e)
    (hbefore : ∀ call ∈ before, call.Proceeds) : Stopped (before ++ calls) e := by
  cases h with
  | @closed before' b hbefore' =>
    rw [← List.append_assoc]
    exact .closed (List.forall_mem_append.2 ⟨hbefore, hbefore'⟩)
  | @failed before' b e hbefore' he =>
    rw [← List.append_assoc]
    exact .failed (List.forall_mem_append.2 ⟨hbefore, hbefore'⟩) he

theorem Stopped.cons {call : StreamCall} {calls : List StreamCall} {e : WireError} (h : Stopped calls e)
    (hcall : call.Proceeds) : Stopped (call :: calls) e := h.append (List.forall_mem_singleton.2 hcall)

namespace Writing

variable {b : Bytes} {calls : List StreamCall} {r : Except WireError Unit}

/-- Bytes are offered in order, whatever follows them. -/
theorem inOrder (h : Writing b calls r) (x : Bytes) : InOrder (b ++ x) calls := by
  induction h with
  | done => trivial
  | @takes b n calls r hb hn hle _ ih =>
    refine ⟨⟨hb, List.prefix_append b x⟩, ?_⟩
    rw [StreamCall.taken, List.length_take, Nat.min_eq_left hle, List.drop_append_of_le_length hle]
    exact ih
  | again hb _ _ ih => exact ⟨⟨hb, List.prefix_append _ x⟩, ih⟩
  | closed hb => exact ⟨⟨hb, List.prefix_append _ x⟩, trivial⟩
  | failed hb => exact ⟨⟨hb, List.prefix_append _ x⟩, trivial⟩

/-- All bytes are taken, or a write put an end to it. -/
theorem outcome (h : Writing b calls r) :
    (r = .ok () ∧ allTaken calls = b ∧ ∀ call ∈ calls, call.Proceeds) ∨
      ∃ e, r = .error e ∧ Stopped calls e := by
  induction h with
  | done => exact .inl ⟨rfl, rfl, nofun⟩
  | @takes b n calls r hb hn hle _ ih =>
    rcases ih with ⟨hr, htaken, hproceeds⟩ | ⟨e, hr, hstopped⟩
    · refine .inl ⟨hr, ?_, List.forall_mem_cons.2 ⟨hn, hproceeds⟩⟩
      calc allTaken (.write b (.ok n) :: calls) = b.take n ++ allTaken calls := rfl
        _ = b := by rw [htaken, List.take_append_drop]
    · exact .inr ⟨e, hr, hstopped.cons hn⟩
  | @again b e calls r hb he _ ih =>
    rcases ih with ⟨hr, htaken, hproceeds⟩ | ⟨e', hr, hstopped⟩
    · exact .inl ⟨hr, htaken, List.forall_mem_cons.2 ⟨he, hproceeds⟩⟩
    · exact .inr ⟨e', hr, hstopped.cons he⟩
  | closed => exact .inr ⟨_, rfl, @Stopped.closed [] _ nofun⟩
  | failed _ he => exact .inr ⟨_, rfl, @Stopped.failed [] _ _ nofun he⟩

end Writing

/-- Flushes offer nothing. -/
theorem Flushing.inOrder {calls : List StreamCall} {r : Except WireError Unit} (h : Flushing calls r)
    (w : Bytes) : InOrder w calls := by
  induction h with
  | done => trivial
  | again _ _ ih => exact ih
  | failed => trivial

/-- What a message that is sent comes to, and how the calls to its stream end. Before the last call there was
more to do after each. -/
inductive Message.Emitted (limit : Nat) (m : Message) : List StreamCall → Except WireError Unit → Prop where
  /-- All of it was taken, and then the stream was flushed. -/
  | whole {before : List StreamCall} (hbefore : ∀ call ∈ before, call.Proceeds)
    (hw : m.encode = .ok (allTaken before)) : Emitted limit m (before ++ [.flush (.ok ())]) (.ok ())
  | unflushed {before : List StreamCall} {e : IoError} (hbefore : ∀ call ∈ before, call.Proceeds)
    (hw : m.encode = .ok (allTaken before)) (he : e.kind ≠ .interrupted) :
    Emitted limit m (before ++ [.flush (.error e)]) (.error (.io e))
  | stopped {calls : List StreamCall} {e : WireError} (h : Stopped calls e) : Emitted limit m calls (.error e)
  /-- Nothing was done to the stream. -/
  | refused {most : Nat} (hm : ¬m.Fits limit) :
    Emitted limit m [] (.error (.payloadTooLarge m.payload.length most))

theorem Flushing.emitted {limit : Nat} {m : Message} {before calls : List StreamCall} {r : Except WireError Unit}
    (h : Flushing calls r) (hbefore : ∀ call ∈ before, call.Proceeds) (hw : m.encode = .ok (allTaken before)) :
    m.Emitted limit (before ++ calls) r := by
  induction h generalizing before with
  | done => exact .whole hbefore hw
  | failed he => exact .unflushed hbefore hw he
  | @again e calls r he _ ih =>
    have hproceeds : (StreamCall.flush (.error e)).Proceeds := he
    have hagain := @ih (before ++ [.flush (.error e)])
      (List.forall_mem_append.2 ⟨hbefore, List.forall_mem_singleton.2 hproceeds⟩)
    rw [allTaken_append, List.append_assoc] at hagain
    exact hagain ((List.append_nil (allTaken before)).symm ▸ hw)

namespace Connection

variable {c : Connection} {m : Message}

/-- The calls by which a message is sent, up to where a write put an end to it. -/
theorem calls_of_send (m : Message) (c : Connection) (hs : c.stream.Settles) :
    ∃ calls, c.stream.Calls calls (c.send m).2.stream ∧ m.Emitted c.limit calls (c.send m).1 ∧
      (calls = [] ∨ ∃ w, m.encode = .ok w ∧ InOrder w calls) := by
  rcases send_cases m c with ⟨hm, most, h⟩ | ⟨w, hw, hsend⟩
  · rw [h]
    exact ⟨[], .none _, .refused hm, .inl rfl⟩
  have hencode : m.encode = .ok (w ++ m.payload) := by rw [Message.encode, hw]; rfl
  obtain ⟨heads, hheads, hhead⟩ := Stream.calls_write hs w
  have horder := hhead.inOrder m.payload
  rcases hhead.outcome with ⟨hok, htaken, hproceeds⟩ | ⟨e, he, hstopped⟩
  · obtain ⟨loads, hloads, hload⟩ := Stream.calls_write (hheads.settles hs) m.payload
    have hcalls := hheads.append hloads
    have hleft : (w ++ m.payload).drop (allTaken heads).length = m.payload := by rw [htaken, List.drop_left]
    have hloaded : InOrder m.payload loads := by simpa using hload.inOrder []
    have horder := horder.append (hleft.symm ▸ hloaded)
    rcases hload.outcome with ⟨hok', htaken', hproceeds'⟩ | ⟨e, he, hstopped⟩
    · -- all of it is taken, and the stream is flushed
      obtain ⟨flushes, hflushes, hflush⟩ := Stream.calls_flush ((c.stream.write w).2.write m.payload).2
      have hbefore := List.forall_mem_append.2 ⟨hproceeds, hproceeds'⟩
      have htold : m.encode = .ok (allTaken (heads ++ loads)) := by rw [allTaken_append, htaken, htaken', hencode]
      rw [hok, hok'] at hsend
      obtain ⟨e, he, -⟩ | ⟨-, ⟨e, he, -⟩ | ⟨-, hsend⟩⟩ := hsend
      · cases he
      · cases he
      rw [hsend]
      exact ⟨_, hcalls.append hflushes, hflush.emitted hbefore htold,
        .inr ⟨_, hencode, horder.append (hflush.inOrder _)⟩⟩
    · -- a write of the payload put an end to it
      rw [hok, he] at hsend
      obtain ⟨e', he', -⟩ | ⟨-, ⟨e', he', hsend⟩ | ⟨hno, -⟩⟩ := hsend
      · cases he'
      · cases he'
        rw [hsend]
        exact ⟨_, hcalls, .stopped (hstopped.append hproceeds), .inr ⟨_, hencode, horder⟩⟩
      · cases hno
  · -- a write of the header put an end to it
    rw [he] at hsend
    obtain ⟨e', he', hsend⟩ | ⟨hno, -⟩ := hsend
    · cases he'
      rw [hsend]
      exact ⟨_, hheads, .stopped hstopped, .inr ⟨_, hencode, horder⟩⟩
    · cases hno

/-- **A message or the first part of it.** Whatever the stream does: what it took, call by call, is the first part
of the message on the wire, offered without a gap and without repetition. A message that is sent was taken whole and
flushed after that; one that is refused for its size has the stream as it was; otherwise the last call failed or
took nothing, and it is that failure that is told, never that a call was to be made again. -/
theorem send_emits (m : Message) (c : Connection) (hs : c.stream.Settles) :
    ∃ calls, c.stream.Calls calls (c.send m).2.stream ∧ m.Emitted c.limit calls (c.send m).1 ∧
      (c.send m).2.stream.sent = c.stream.sent ++ allTaken calls ∧
      (∀ w, m.encode = .ok w → InOrder w calls ∧ allTaken calls <+: w) ∧
      ∀ e, m.encode = .error e → calls = [] := by
  obtain ⟨calls, hcalls, hemitted, horder⟩ := calls_of_send m c hs
  refine ⟨calls, hcalls, hemitted, hcalls.sent_eq, ?_, ?_⟩
  · intro w hw
    rcases horder with rfl | ⟨w', hw', horder⟩
    · exact ⟨trivial, List.nil_prefix⟩
    · cases hw'.symm.trans hw
      exact ⟨horder, horder.allTaken_prefix⟩
  · intro e he
    rcases horder with rfl | ⟨w, hw, -⟩
    · rfl
    · cases hw.symm.trans he

/-- A stream that takes a few bytes at a time, once asks for a write to be made again, and breaks within the
payload of a message of three bytes. -/
def trickling : Connection :=
  { stream :=
    { acceptances := [.takes 3, .failed ⟨.interrupted, "again"⟩, .takes 9, .takes 2, .failed ⟨.brokenPipe, "gone"⟩] } }

/-- All but the last byte was taken, and the failure of the last write is told. -/
theorem send_emits_trickling :
    let m : Message := ⟨.binary, [1, 2, 3]⟩
    trickling.stream.Settles ∧ (trickling.send m).1 = .error (.io ⟨.brokenPipe, "gone"⟩) ∧
      ∃ calls, trickling.stream.Calls calls (trickling.send m).2.stream ∧
        allTaken calls = [0x46, 0x57, 3, 0, 0, 0, 2, 0, 1, 2] ∧
        InOrder [0x46, 0x57, 3, 0, 0, 0, 2, 0, 1, 2, 3] calls := by
  intro m
  have hsettles : trickling.stream.Settles := nofun
  obtain ⟨calls, hcalls, -, hsent, horder, -⟩ := send_emits m trickling hsettles
  have hstands : (trickling.send m).2.stream.sent = [0x46, 0x57, 3, 0, 0, 0, 2, 0, 1, 2] := by decide
  have hwire : m.encode = .ok [0x46, 0x57, 3, 0, 0, 0, 2, 0, 1, 2, 3] := by decide
  refine ⟨hsettles, by decide, calls, hcalls, ?_, (horder _ hwire).1⟩
  rw [← hstands, hsent]
  rfl

end Connection
end FrameFeed
