import FrameFeed.Proofs.Wire.Framing
import FrameFeed.Wire.Connection
/-!
# What passes over a connection

How the bytes of a stream are cut into reads does not matter. A message that is received is the one
that the bytes at hand and to come begin with, and a read that fails loses none of them
(`decode_pending_of_receive`, `pending_of_receive_error`); up to where the stream gives out, the bytes
alone decide what is received (`receive_ahead`). A message that was sent stands on the stream whole
(`sent_of_send`), and on a stream that takes what it is given every message that fits is sent
(`send_of_writable`).
-/
namespace FrameFeed

/-! ## Bytes to come -/

namespace Stream

/-- All bytes that are to come. -/
def content : List Arrival → Bytes
  | [] => []
  | .data b :: as => b ++ content as
  | .failed _ :: as => content as

/-- The bytes that come before the stream gives out. -/
def untilStop : List Arrival → Bytes
  | [] | .data [] :: _ => []
  | .data (c :: b) :: as => c :: b ++ untilStop as
  | .failed e :: as => if e.kind = .interrupted then untilStop as else []

/-- How the stream gives out: by a failure, or by its end. -/
def stop (ending : Option IoError) : List Arrival → Option IoError
  | [] => ending
  | .data [] :: _ => none
  | .data (_ :: _) :: as => stop ending as
  | .failed e :: as => if e.kind = .interrupted then stop ending as else some e

theorem untilStop_data {b : Bytes} (hb : b ≠ []) (as : List Arrival) :
    untilStop (.data b :: as) = b ++ untilStop as := by
  cases b with
  | nil => exact absurd rfl hb
  | cons c b => rfl

theorem stop_data {b : Bytes} (hb : b ≠ []) (ending : Option IoError) (as : List Arrival) :
    stop ending (.data b :: as) = stop ending as := by
  cases b with
  | nil => exact absurd rfl hb
  | cons c b => rfl

end Stream

namespace Connection

/-- The bytes at hand and all that are to come. -/
def pending (c : Connection) : Bytes := c.buffer ++ Stream.content c.stream.arrivals

/-- The bytes at hand and those that come before the stream gives out. -/
def ahead (c : Connection) : Bytes := c.buffer ++ Stream.untilStop c.stream.arrivals

/-- How the stream gives out. -/
def stop (c : Connection) : Option IoError := Stream.stop c.stream.ending c.stream.arrivals

/-- What a reader is told when the stream gives out. -/
def stopError : Option IoError → WireError
  | none => .closed
  | some e => .io e

/-! ## Receiving -/

section
variable {limit : Nat} {ending : Option IoError} {b : Bytes} {sp : Space} {as : List Arrival}
variable {m : Message} {e : WireError}

theorem collect_ok (h : (collect limit ending b sp as).1 = .ok m) :
    Message.decode limit (b ++ Stream.content as) = .ok (some (m,
      (collect limit ending b sp as).2.1 ++ Stream.content (collect limit ending b sp as).2.2.2)) := by
  fun_induction collect limit ending b sp as with
  | case1 => cases h
  | case2 _ _ _ _ _ hd => cases h; exact Message.decode_append_of_some hd _
  | case3 => cases h
  | case4 => cases h
  | case5 _ _ _ _ _ _ _ ih => exact ih h
  | case6 => cases h
  | case7 => cases h
  | case8 _ _ _ _ _ _ _ _ _ ih =>
    have := ih h
    rwa [List.append_assoc] at this
  | case9 _ _ _ _ _ _ _ _ _ ih =>
    have := ih h
    rwa [Stream.content, List.append_assoc, ← List.append_assoc (List.take _ _), List.take_append_drop]
      at this

theorem collect_error (h : (collect limit ending b sp as).1 = .error e) :
    (collect limit ending b sp as).2.1 ++ Stream.content (collect limit ending b sp as).2.2.2 =
      b ++ Stream.content as := by
  fun_induction collect limit ending b sp as with
  | case1 => rfl
  | case2 => cases h
  | case3 => rfl
  | case4 => rfl
  | case5 _ _ _ _ _ _ _ ih => exact ih h
  | case6 => rfl
  | case7 => rfl
  | case8 _ _ _ _ _ _ _ _ _ ih => rw [ih h, List.append_assoc]; rfl
  | case9 _ _ _ _ _ _ _ _ _ ih =>
    rw [ih h, Stream.content, List.append_assoc, ← List.append_assoc (List.take _ _),
      List.take_append_drop]
    rfl

/-- Up to where the stream gives out, the bytes alone decide what is collected. -/
theorem collect_untilStop (limit : Nat) (ending : Option IoError) (b : Bytes) (sp : Space)
    (as : List Arrival) :
    match Message.decode limit (b ++ Stream.untilStop as) with
    | .ok (some (m, r)) =>
      (collect limit ending b sp as).1 = .ok m ∧
        (collect limit ending b sp as).2.1 ++
          Stream.untilStop (collect limit ending b sp as).2.2.2 = r ∧
        Stream.stop ending (collect limit ending b sp as).2.2.2 = Stream.stop ending as
    | .ok none => (collect limit ending b sp as).1 = .error (stopError (Stream.stop ending as))
    | .error e => (collect limit ending b sp as).1 = .error e := by
  fun_induction collect limit ending b sp as with
  | case1 _ _ _ e hd => rw [Message.decode_append_of_error hd]
  | case2 _ _ _ m r hd => rw [Message.decode_append_of_some hd]; exact ⟨rfl, rfl, rfl⟩
  | case3 _ _ hd _ he => rw [Stream.untilStop, List.append_nil, hd, he]; rfl
  | case4 _ _ hd _ _ he => rw [Stream.untilStop, List.append_nil, hd, he]; rfl
  | case5 _ _ hd _ e as hi ih => rw [Stream.untilStop, if_pos hi, Stream.stop, if_pos hi]; exact ih
  | case6 _ _ hd _ e as hi =>
    rw [Stream.untilStop, if_neg hi, Stream.stop, if_neg hi, List.append_nil, hd]; rfl
  | case7 _ _ hd => rw [Stream.untilStop, List.append_nil, hd]; rfl
  | case8 b _ hd _ c d as _ _ ih => rw [List.append_assoc] at ih; exact ih
  | case9 b _ hd _ c d as room hroom ih =>
    have hne : (c :: d).drop room ≠ [] := by
      intro h0
      have := List.drop_eq_nil_iff.1 h0
      omega
    rw [Stream.untilStop_data hne, Stream.stop_data hne, List.append_assoc,
      ← List.append_assoc (List.take _ _), List.take_append_drop] at ih
    exact ih

end

variable {c c' : Connection} {m : Message} {e : WireError}

theorem decode_pending_of_receive (h : c.receive.1 = .ok m) :
    Message.decode c.limit c.pending = .ok (some (m, c.receive.2.pending)) :=
  collect_ok h

theorem pending_of_receive_error (h : c.receive.1 = .error e) : c.receive.2.pending = c.pending :=
  collect_error h

theorem receive_ahead (c : Connection) :
    match Message.decode c.limit c.ahead with
    | .ok (some (m, r)) => c.receive.1 = .ok m ∧ c.receive.2.ahead = r ∧ c.receive.2.stop = c.stop
    | .ok none => c.receive.1 = .error (stopError c.stop)
    | .error e => c.receive.1 = .error e :=
  collect_untilStop c.limit c.stream.ending c.buffer c.space c.stream.arrivals

end Connection

/-! ## Sending -/

namespace Stream

theorem write_go_ok {s : Stream} {b taken : Bytes} {as : List Acceptance}
    (h : (write.go s b taken as).1 = .ok ()) : (write.go s b taken as).2.1 = taken ++ b := by
  fun_induction write.go s b taken as with
  | case1 => exact (List.append_nil _).symm
  | case2 => rfl
  | case3 => cases h
  | case4 => cases h
  | case5 _ _ _ _ _ _ ih => rw [ih h, List.append_assoc, List.take_append_drop]
  | case6 _ _ _ _ _ _ ih => exact ih h
  | case7 => cases h

/-- A write that takes something, or that is to be made again. -/
def Acceptance.Proceeds : Acceptance → Prop
  | .takes n => 0 < n
  | .failed e => e.kind = .interrupted

/-- The stream takes all that it is given. -/
structure Writable (s : Stream) : Prop where
  acceptances : ∀ a ∈ s.acceptances, Acceptance.Proceeds a
  refusal : s.refusal = none
  flushes : ∀ e, some e ∈ s.flushes → e.kind = .interrupted

theorem write_go_of_proceeds {s : Stream} {b taken : Bytes} {as : List Acceptance}
    (hr : s.refusal = none) (ha : ∀ a ∈ as, Acceptance.Proceeds a) :
    (write.go s b taken as).1 = .ok () ∧
      ∀ a ∈ (write.go s b taken as).2.2, Acceptance.Proceeds a := by
  fun_induction write.go s b taken as with
  | case1 => exact ⟨rfl, ha⟩
  | case2 => exact ⟨rfl, ha⟩
  | case3 _ _ _ _ he => rw [hr] at he; cases he
  | case4 => exact absurd (ha _ (.head _)) (Nat.lt_irrefl 0)
  | case5 _ _ _ _ _ _ ih => exact ih fun a h => ha a (.tail _ h)
  | case6 _ _ _ _ _ _ ih => exact ih fun a h => ha a (.tail _ h)
  | case7 _ _ _ _ _ hi => exact absurd (ha _ (.head _)) hi

theorem flush_go_of_interrupted {fs : List (Option IoError)}
    (h : ∀ e, some e ∈ fs → e.kind = .interrupted) :
    (flush.go fs).1 = .ok () ∧ ∀ e, some e ∈ (flush.go fs).2.1 → e.kind = .interrupted := by
  fun_induction flush.go fs with
  | case1 => exact ⟨rfl, h⟩
  | case2 => exact ⟨rfl, fun e he => h e (.tail _ he)⟩
  | case3 _ _ _ ih => exact ih fun e he => h e (.tail _ he)
  | case4 e _ hi => exact absurd (h e (.head _)) hi

variable {s : Stream}

theorem sent_of_write {b : Bytes} (h : (s.write b).1 = .ok ()) :
    (s.write b).2.sent = s.sent ++ b := by
  simp only [write] at h ⊢
  rw [write_go_ok h, List.nil_append]

theorem Writable.write (h : s.Writable) (b : Bytes) :
    (s.write b).1 = .ok () ∧ (s.write b).2.Writable := by
  obtain ⟨hok, hleft⟩ := @write_go_of_proceeds s b [] s.acceptances h.refusal h.acceptances
  exact ⟨hok, hleft, h.refusal, h.flushes⟩

theorem Writable.flush (h : s.Writable) : s.flush.1 = .ok () ∧ s.flush.2.Writable := by
  obtain ⟨hok, hleft⟩ := flush_go_of_interrupted h.flushes
  exact ⟨hok, h.acceptances, h.refusal, hleft⟩

end Stream

/-- A message that a writer with this limit takes: its payload is not over the limit, and a header can
hold its length. -/
def Message.Fits (limit : Nat) (m : Message) : Prop :=
  m.payload.length ≤ limit ∧ m.payload.length ≤ Message.lengthLimit

instance (limit : Nat) (m : Message) : Decidable (m.Fits limit) :=
  inferInstanceAs (Decidable (_ ∧ _))

theorem Message.Fits.encode {limit : Nat} {m : Message} (h : m.Fits limit) : ∃ w, m.encode = .ok w := by
  rw [Message.encode, header, if_neg (Nat.not_lt.2 h.2)]
  exact ⟨_, rfl⟩

namespace Connection

variable {c : Connection} {m : Message}

/-- How a message goes out: it does not fit and is refused for its size before a byte of it is written, or the
header is written, then the payload, and then the stream is flushed. -/
theorem send_cases (m : Message) (c : Connection) :
    (¬m.Fits c.limit ∧ ∃ most, c.send m = (.error (.payloadTooLarge m.payload.length most), c)) ∨
    ∃ h, Message.header m.kind m.payload.length = .ok h ∧
      ((∃ e, (c.stream.write h).1 = .error e ∧
          c.send m = (.error e, { c with stream := (c.stream.write h).2 })) ∨
        (c.stream.write h).1 = .ok () ∧ ((∃ e, ((c.stream.write h).2.write m.payload).1 = .error e ∧
            c.send m = (.error e, { c with stream := ((c.stream.write h).2.write m.payload).2 })) ∨
          ((c.stream.write h).2.write m.payload).1 = .ok () ∧
            c.send m = (((c.stream.write h).2.write m.payload).2.flush.1,
              { c with stream := ((c.stream.write h).2.write m.payload).2.flush.2 }))) := by
  unfold send
  split
  · rename_i hl
    exact .inl ⟨fun hf => Nat.not_lt.2 hf.1 hl, _, rfl⟩
  · split
    · rename_i e he
      unfold Message.header at he
      split at he
      · rename_i hl
        cases he
        exact .inl ⟨fun hf => Nat.not_lt.2 hf.2 hl, _, rfl⟩
      · cases he
    · rename_i h hh
      refine .inr ⟨h, hh, ?_⟩
      split
      · rename_i hw; rw [hw]; exact .inl ⟨_, rfl, rfl⟩
      · rename_i hw; rw [hw]
        refine .inr ⟨rfl, ?_⟩
        split
        · rename_i hp; rw [hp]; exact .inl ⟨_, rfl, rfl⟩
        · rename_i hp; rw [hp]; exact .inr ⟨rfl, rfl⟩

/-- A message that does not fit is refused for its size, and nothing is done to the stream. -/
theorem send_of_not_fits (hm : ¬m.Fits c.limit) :
    ∃ most, c.send m = (.error (.payloadTooLarge m.payload.length most), c) := by
  rcases send_cases m c with ⟨-, h⟩ | ⟨w, hw, -⟩
  · exact h
  · have hlength : m.payload.length ≤ Message.lengthLimit :=
      (Message.encode_eq_ok (by rw [Message.encode, hw]; rfl)).1
    have hlimit : c.limit < m.payload.length := Nat.lt_of_not_le fun h => hm ⟨h, hlength⟩
    exact ⟨c.limit, by rw [send, if_pos hlimit]⟩

/-- Sending leaves what there is to read as it is. -/
theorem send_sides (m : Message) (c : Connection) : (c.send m).2.limit = c.limit ∧
    (c.send m).2.buffer = c.buffer ∧ (c.send m).2.stream.arrivals = c.stream.arrivals ∧
    (c.send m).2.stream.ending = c.stream.ending := by
  rcases send_cases m c with ⟨-, e, h⟩ | ⟨_, -, ⟨e, -, h⟩ | ⟨-, ⟨e, -, h⟩ | ⟨-, h⟩⟩⟩ <;>
    exact h ▸ ⟨rfl, rfl, rfl, rfl⟩

theorem pending_send : (c.send m).2.pending = c.pending := by
  obtain ⟨-, hb, ha, -⟩ := send_sides m c
  rw [pending, hb, ha, pending]

theorem ahead_send : (c.send m).2.ahead = c.ahead := by
  obtain ⟨-, hb, ha, -⟩ := send_sides m c
  rw [ahead, hb, ha, ahead]

theorem stop_send : (c.send m).2.stop = c.stop := by
  obtain ⟨-, -, ha, he⟩ := send_sides m c
  rw [stop, ha, he, stop]

/-- What was sent stands on the stream, all of it. -/
theorem sent_of_send (hok : (c.send m).1 = .ok ()) :
    ∃ w, m.encode = .ok w ∧ (c.send m).2.stream.sent = c.stream.sent ++ w := by
  rcases send_cases m c with ⟨-, e, h⟩ | ⟨w, hw, ⟨e, -, h⟩ | ⟨hhead, ⟨e, -, h⟩ | ⟨hload, h⟩⟩⟩
  · rw [h] at hok; cases hok
  · rw [h] at hok; cases hok
  · rw [h] at hok; cases hok
  · refine ⟨w ++ m.payload, by rw [Message.encode, hw]; rfl, ?_⟩
    calc (c.send m).2.stream.sent = ((c.stream.write w).2.write m.payload).2.sent := by rw [h]; rfl
      _ = (c.stream.sent ++ w) ++ m.payload := by
        rw [Stream.sent_of_write hload, Stream.sent_of_write hhead]
      _ = c.stream.sent ++ (w ++ m.payload) := List.append_assoc ..

theorem writable_receive (hw : c.stream.Writable) : c.receive.2.stream.Writable :=
  ⟨hw.acceptances, hw.refusal, hw.flushes⟩

theorem send_of_writable (hw : c.stream.Writable) (hm : m.Fits c.limit) :
    (c.send m).1 = .ok () ∧ (c.send m).2.stream.Writable := by
  rcases send_cases m c with ⟨hn, -⟩ | ⟨w, -, ⟨e, he, -⟩ | ⟨-, ⟨e, he, -⟩ | ⟨-, h⟩⟩⟩
  · exact absurd hm hn
  · rw [(hw.write w).1] at he; cases he
  · rw [((hw.write w).2.write m.payload).1] at he; cases he
  · rw [h]; exact ((hw.write w).2.write m.payload).2.flush

end Connection
end FrameFeed
