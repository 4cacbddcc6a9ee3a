import FrameFeed.Proofs.Wire.Traffic
/-!
# Receiving until the stream ends

What a reader is told does not depend on how the bytes arrive. Read by read a stream brings bytes or a
failure, and at last its end (`Stream.Ends`). The bytes decide what the calls of a reader return, the
failures left out (`told`); the failures decide the rest: each is returned once, unless the read is made
again (`Stream.failures`). The main theorem is `receiveMany_told`.
-/
namespace FrameFeed

namespace Stream

/-- The failures that a reader is told of, in the order in which reads meet them. A read that was
interrupted is made again. -/
def failures : List Arrival → List IoError
  | [] => []
  | .data _ :: as => failures as
  | .failed e :: as => if e.kind = .interrupted then failures as else e :: failures as

/-- Reads bring bytes or fail until the stream ends, and from then on they give its end. -/
structure Ends (s : Stream) : Prop where
  ending : s.ending = none
  data : ∀ a ∈ s.arrivals, a ≠ .data []

theorem failures_not_interrupted {as : List Arrival} {e : IoError} (h : e ∈ failures as) :
    e.kind ≠ .interrupted := by
  induction as with
  | nil => simp [failures] at h
  | cons a as ih =>
    cases a with
    | data b => exact ih h
    | failed e' =>
      simp only [failures] at h
      split at h
      · exact ih h
      · rename_i hi
        rcases List.mem_cons.1 h with rfl | h
        · exact hi
        · exact ih h

end Stream

/-- The failure of the stream that a call returns. -/
def ioError? : Except WireError Message → Option IoError
  | .error (.io e) => some e
  | _ => none

theorem Message.ioError?_of_decode {limit : Nat} {b : Bytes} {e : WireError}
    (h : decode limit b = .error e) : ioError? (.error e) = none := by
  unfold decode at h
  split at h
  · split at h
    · cases h; rfl
    · split at h
      · cases h; rfl
      · simp only at h
        split at h
        · cases h; rfl
        · split at h <;> cases h
  · cases h

namespace Connection

/-! ## One call -/

section
variable {limit : Nat} {b : Bytes} {sp : Space} {as : List Arrival} {m : Message} {e : WireError}

/-- A call ends with the first failure that it meets, or with none. -/
theorem collect_failures (limit : Nat) (b : Bytes) (sp : Space) (as : List Arrival) :
    Stream.failures as = (ioError? (collect limit none b sp as).1).toList ++
      Stream.failures (collect limit none b sp as).2.2.2 := by
  fun_induction collect limit none b sp as with
  | case1 _ _ _ e hd => rw [Message.ioError?_of_decode hd]; rfl
  | case2 => rfl
  | case3 => rfl
  | case4 _ _ _ _ _ he => cases he
  | case5 _ _ _ _ e as hi ih => rw [Stream.failures, if_pos hi]; exact ih
  | case6 _ _ _ _ e as hi => rw [Stream.failures, if_neg hi]; rfl
  | case7 => rfl
  | case8 _ _ _ _ _ _ _ _ _ ih => exact ih
  | case9 _ _ _ _ _ _ _ _ _ ih => exact ih

theorem drop_ne_nil {b : Bytes} {n : Nat} (h : n < b.length) : b.drop n ≠ [] := by
  intro hnil
  have := List.drop_eq_nil_iff.1 hnil
  omega

/-- Nothing but the bytes decides that a call finds no message where the stream did not fail. -/
theorem collect_verdict (hdata : ∀ a ∈ as, a ≠ .data [])
    (h : (collect limit none b sp as).1 = .error e) (hio : ioError? (.error e) = none) :
    Message.decode limit (b ++ Stream.content as) = .error e ∨
      e = .closed ∧ Message.decode limit (b ++ Stream.content as) = .ok none := by
  fun_induction collect limit none b sp as with
  | case1 _ _ _ _ hd => cases h; exact .inl (Message.decode_append_of_error hd _)
  | case2 => cases h
  | case3 _ _ hd =>
    cases h
    rw [Stream.content, List.append_nil]
    exact .inr ⟨rfl, hd⟩
  | case4 _ _ _ _ _ he => cases he
  | case5 _ _ _ _ _ _ _ ih => exact ih (fun a ha => hdata a (.tail _ ha)) h
  | case6 => cases h; cases hio
  | case7 => exact absurd rfl (hdata _ (.head _))
  | case8 _ _ _ _ _ _ _ _ _ ih =>
    have := ih (fun a ha => hdata a (.tail _ ha)) h
    rwa [List.append_assoc] at this
  | case9 _ _ _ _ c d as room hroom ih =>
    have hdata' : ∀ a ∈ Arrival.data ((c :: d).drop room) :: as, a ≠ .data [] := by
      intro a ha
      rcases List.mem_cons.1 ha with rfl | ha
      · exact fun h0 => drop_ne_nil (Nat.not_le.1 hroom) (Arrival.data.inj h0)
      · exact hdata a (.tail _ ha)
    have := ih hdata' h
    rwa [Stream.content, List.append_assoc, ← List.append_assoc (List.take _ _), List.take_append_drop]
      at this

/-- What holds of every arrival, and of the rest of one that was read in part, holds of those left. -/
theorem collect_arrivals {ending : Option IoError} {P : Arrival → Prop}
    (hrest : ∀ b n, n < b.length → P (.data b) → P (.data (b.drop n))) (h : ∀ a ∈ as, P a) :
    ∀ a ∈ (collect limit ending b sp as).2.2.2, P a := by
  fun_induction collect limit ending b sp as with
  | case1 => exact h
  | case2 => exact h
  | case3 => exact h
  | case4 => exact h
  | case5 _ _ _ _ _ _ _ ih => exact ih fun a ha => h a (.tail _ ha)
  | case6 => exact fun a ha => h a (.tail _ ha)
  | case7 => exact fun a ha => h a (.tail _ ha)
  | case8 _ _ _ _ _ _ _ _ _ ih => exact ih fun a ha => h a (.tail _ ha)
  | case9 _ _ _ _ c d as room hroom ih =>
    refine ih fun a ha => ?_
    rcases List.mem_cons.1 ha with rfl | ha
    · exact hrest _ _ (Nat.not_le.1 hroom) (h _ (.head _))
    · exact h a (.tail _ ha)

theorem collect_data {ending : Option IoError} (hdata : ∀ a ∈ as, a ≠ .data []) :
    ∀ a ∈ (collect limit ending b sp as).2.2.2, a ≠ .data [] := by
  refine collect_arrivals (fun b n hn _ h => ?_) hdata
  exact drop_ne_nil hn (Arrival.data.inj h)

/-- What was wrong with a header stays at the front of the buffer. -/
theorem collect_flaw {ending : Option IoError} (h : (collect limit ending b sp as).1 = .error e)
    (hio : ioError? (.error e) = none) (hclosed : e ≠ .closed) :
    Message.decode limit (collect limit ending b sp as).2.1 = .error e := by
  fun_induction collect limit ending b sp as with
  | case1 _ _ _ _ hd => cases h; exact hd
  | case2 => cases h
  | case3 => cases h; exact absurd rfl hclosed
  | case4 => cases h; cases hio
  | case5 _ _ _ _ _ _ _ ih => exact ih h
  | case6 => cases h; cases hio
  | case7 => cases h; exact absurd rfl hclosed
  | case8 _ _ _ _ _ _ _ _ _ ih => exact ih h
  | case9 _ _ _ _ _ _ _ _ _ ih => exact ih h

end

variable {c : Connection} {m : Message} {e : WireError} {r : Bytes}

theorem ends_receive (h : c.stream.Ends) : c.receive.2.stream.Ends :=
  ⟨h.ending, collect_data h.data⟩

theorem failures_receive (h : c.stream.Ends) : Stream.failures c.stream.arrivals =
    (ioError? c.receive.1).toList ++ Stream.failures c.receive.2.stream.arrivals := by
  have hcollect := collect_failures c.limit c.buffer c.space c.stream.arrivals
  rw [← h.ending] at hcollect
  exact hcollect

theorem verdict_receive (h : c.stream.Ends) (he : c.receive.1 = .error e)
    (hio : ioError? (.error e) = none) : Message.decode c.limit c.pending = .error e ∨
      e = .closed ∧ Message.decode c.limit c.pending = .ok none := by
  have hcollect : (collect c.limit none c.buffer c.space c.stream.arrivals).1 = .error e := by
    rw [← h.ending]; exact he
  exact collect_verdict h.data hcollect hio

/-- No read is made for a message that is in the buffer: the call is the same on any stream. -/
theorem receive_of_buffer (h : Message.decode c.limit c.buffer = .ok (some (m, r))) (s : Stream) :
    ({ c with stream := s } : Connection).receive =
      (.ok m, { c with stream := s, buffer := r, space := c.space.advance m.wireSize }) := by
  simp only [receive]
  rw [collect, h]

/-- Nor to find again what is wrong with a header. -/
theorem receive_of_flaw (h : Message.decode c.limit c.buffer = .error e) (s : Stream) :
    ({ c with stream := s } : Connection).receive = (.error e, { c with stream := s }) := by
  simp only [receive]
  rw [collect, h]

/-! ## Calls one after the other -/

/-- What `n` calls return, and the connection after them. -/
def receiveMany : Nat → Connection → List (Except WireError Message) × Connection
  | 0, c => ([], c)
  | n + 1, c => (c.receive.1 :: (receiveMany n c.receive.2).1, (receiveMany n c.receive.2).2)

/-- What a reader is told of bytes: the messages in them, then, time after time, what is wrong with the
header behind them or else that the stream ended. -/
def told (limit : Nat) (b : Bytes) (n : Nat) : List (Except WireError Message) :=
  (Message.decodeAll limit b).1.map .ok ++
    .replicate n (.error ((Message.decodeAll limit b).2.2.getD .closed))

theorem told_prefix_succ (limit : Nat) (b : Bytes) (n : Nat) : told limit b n <+: told limit b (n + 1) := by
  rw [told, told, List.replicate_succ']
  exact ⟨[_], List.append_assoc ..⟩

theorem told_of_some {limit : Nat} {b : Bytes} (h : Message.decode limit b = .ok (some (m, r))) (n : Nat) :
    told limit b n = .ok m :: told limit r n := by
  rw [told, Message.decodeAll_of_some h]; rfl

theorem told_of_flaw {limit : Nat} {b : Bytes} (h : Message.decode limit b = .error e) (n : Nat) :
    told limit b (n + 1) = .error e :: told limit b n := by
  rw [told, told, Message.decodeAll_of_error h]; rfl

theorem told_of_none {limit : Nat} {b : Bytes} (h : Message.decode limit b = .ok none) (n : Nat) :
    told limit b (n + 1) = .error .closed :: told limit b n := by
  rw [told, told, Message.decodeAll_of_none h]; rfl

theorem length_receiveMany (n : Nat) (c : Connection) : (receiveMany n c).1.length = n := by
  induction n generalizing c with
  | zero => rfl
  | succ n ih => rw [receiveMany, List.length_cons, ih]

/-- The failures left out, what the calls return is what the bytes tell. -/
theorem receiveMany_prefix_told (h : c.stream.Ends) (n : Nat) :
    (receiveMany n c).1.filter (ioError? · = none) <+: told c.limit c.pending n := by
  induction n generalizing c with
  | zero => exact List.nil_prefix
  | succ n ih =>
    have htail := ih (ends_receive h)
    rw [receiveMany]
    cases hr : c.receive.1 with
    | ok m =>
      rw [told_of_some (decode_pending_of_receive hr), List.filter_cons_of_pos (by simp [ioError?])]
      exact List.cons_prefix_cons.2 ⟨rfl, htail.trans (told_prefix_succ _ _ n)⟩
    | error e =>
      rw [pending_of_receive_error hr] at htail
      by_cases hio : ioError? (.error e) = none
      · rw [List.filter_cons_of_pos (by simp [hio])]
        have htold : told c.limit c.pending (n + 1) = .error e :: told c.limit c.pending n := by
          rcases verdict_receive h hr hio with hd | ⟨rfl, hd⟩
          · exact told_of_flaw hd n
          · exact told_of_none hd n
        rw [htold]
        exact List.cons_prefix_cons.2 ⟨rfl, htail⟩
      · rw [List.filter_cons_of_neg (by simp [hio])]
        exact htail.trans (told_prefix_succ _ _ n)

/-- The failures among what the calls return are those that the reads met. -/
theorem receiveMany_failures (h : c.stream.Ends) (n : Nat) : Stream.failures c.stream.arrivals =
    (receiveMany n c).1.filterMap ioError? ++ Stream.failures (receiveMany n c).2.stream.arrivals := by
  induction n generalizing c with
  | zero => rfl
  | succ n ih =>
    rw [failures_receive h, ih (ends_receive h), receiveMany, List.filterMap_cons, ← List.append_assoc]
    cases ioError? c.receive.1 <;> rfl

/-- The messages among what the calls return stand at the front of the bytes, and the bytes behind them are
still to be read. -/
theorem receiveMany_frames (c : Connection) (n : Nat) : Message.Frames c.limit
    ((receiveMany n c).1.filterMap Except.toOption) c.pending (receiveMany n c).2.pending := by
  induction n generalizing c with
  | zero => exact (rfl : c.pending = c.pending)
  | succ n ih =>
    have htail : Message.Frames c.limit _ c.receive.2.pending _ := ih c.receive.2
    rw [receiveMany]
    cases hr : c.receive.1 with
    | ok m => exact ⟨_, decode_pending_of_receive hr, htail⟩
    | error e => rw [pending_of_receive_error hr] at htail; exact htail

/-- A header that cannot be read is what every later call finds. -/
theorem receiveMany_of_flaw (h : Message.decode c.limit c.buffer = .error e) (n : Nat) :
    (receiveMany n c).2 = c := by
  induction n with
  | zero => rfl
  | succ n ih =>
    have hr : c.receive.2 = c := congrArg Prod.snd (receive_of_flaw h c.stream)
    rw [receiveMany, hr]
    exact ih

theorem decode_buffer_of_mem_receiveMany {n : Nat} (h : .error e ∈ (receiveMany n c).1)
    (hio : ioError? (.error e) = none) (hclosed : e ≠ .closed) :
    Message.decode (receiveMany n c).2.limit (receiveMany n c).2.buffer = .error e := by
  induction n generalizing c with
  | zero => cases h
  | succ n ih =>
    rw [receiveMany] at h ⊢
    rcases List.mem_cons.1 h with hr | h
    · have hflaw : Message.decode c.receive.2.limit c.receive.2.buffer = .error e :=
        collect_flaw hr.symm hio hclosed
      rw [receiveMany_of_flaw hflaw]
      exact hflaw
    · exact ih h

/-- **A reader does not depend on how the bytes arrive.** However a stream is cut into reads and whatever
failures stand between them: what any number of calls return, the failures left out, are the messages that
the bytes hold, then the flaw of the header behind them, or else that the stream ended. Every failure that
reads met is returned by one call, in order, and no interrupted read is. The messages returned stand at the
front of the bytes, and all behind them is still to be read. After these calls a message that is in the
buffer is returned without a read, and so is a flaw that was told before. -/
theorem receiveMany_told (h : c.stream.Ends) (n : Nat) :
    let rs := (receiveMany n c).1
    let c' := (receiveMany n c).2
    rs.length = n ∧ rs.filter (ioError? · = none) <+: told c.limit c.pending n ∧
      Stream.failures c.stream.arrivals =
        rs.filterMap ioError? ++ Stream.failures c'.stream.arrivals ∧
      (∀ e ∈ rs.filterMap ioError?, e.kind ≠ .interrupted) ∧
      Message.Frames c.limit (rs.filterMap Except.toOption) c.pending c'.pending ∧
      (∀ m r, Message.decode c'.limit c'.buffer = .ok (some (m, r)) → ∀ s,
        ({ c' with stream := s } : Connection).receive =
          (.ok m, { c' with stream := s, buffer := r, space := c'.space.advance m.wireSize })) ∧
      ∀ e, .error e ∈ rs → ioError? (.error e) = none → e ≠ .closed → ∀ s,
        ({ c' with stream := s } : Connection).receive = (.error e, { c' with stream := s }) := by
  intro rs c'
  have hfailures := receiveMany_failures h n
  refine ⟨length_receiveMany n c, receiveMany_prefix_told h n, hfailures, ?_, receiveMany_frames c n,
    ?_, ?_⟩
  · intro e he
    have hmem : e ∈ Stream.failures c.stream.arrivals := by
      rw [hfailures]; exact List.mem_append_left _ he
    exact Stream.failures_not_interrupted hmem
  · intro m r hd
    exact receive_of_buffer hd
  · intro e he hio hclosed
    exact receive_of_flaw (decode_buffer_of_mem_receiveMany he hio hclosed)

/-- Two messages and a header that cannot be read, cut anywhere, with failures between the reads. -/
def stutter : Connection where
  stream.arrivals :=
    [.data [0x46, 0x57, 2, 0], .failed ⟨.interrupted, "signal"⟩, .data [0, 0, 2],
      .failed ⟨.timedOut, "late"⟩, .data [0, 0x61, 0x62, 0x46, 0x57, 0, 0, 0, 0, 1, 0, 1, 2, 3],
      .failed ⟨.connectionReset, "reset"⟩, .data [4, 5, 6, 7, 8, 9]]

theorem receiveMany_stutter : (receiveMany 6 stutter).1 =
      [.error (.io ⟨.timedOut, "late"⟩), .ok ⟨.binary, [0x61, 0x62]⟩, .ok ⟨.json, []⟩,
        .error (.io ⟨.connectionReset, "reset"⟩), .error .badMagic, .error .badMagic] ∧
    (receiveMany 6 stutter).1.filter (ioError? · = none) <+: told stutter.limit stutter.pending 6 ∧
    ∀ s, ({ (receiveMany 6 stutter).2 with stream := s } : Connection).receive =
      (.error .badMagic, { (receiveMany 6 stutter).2 with stream := s }) := by
  have hends : stutter.stream.Ends := ⟨rfl, by decide⟩
  have hcalls : (receiveMany 6 stutter).1 =
      [.error (.io ⟨.timedOut, "late"⟩), .ok ⟨.binary, [0x61, 0x62]⟩, .ok ⟨.json, []⟩,
        .error (.io ⟨.connectionReset, "reset"⟩), .error .badMagic, .error .badMagic] := by decide +kernel
  obtain ⟨-, htold, -, -, -, -, hflaw⟩ := receiveMany_told hends 6
  refine ⟨hcalls, htold, hflaw .badMagic ?_ rfl nofun⟩
  rw [hcalls]
  simp

end Connection
end FrameFeed
