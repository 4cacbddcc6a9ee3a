import FrameFeed.Proofs.Wire.Traffic
/-!
# Messages taken off a buffer as they were put there

Messages that are appended to a buffer leave what it holds as it is (`encodeAll_of_fits`), and taking
off as many gives them back in order with what follows them (`Frames.decodeTimes_eq`), whatever bytes
their payloads hold. From a message that was cut short nothing is taken (`decode_of_cut`).
-/
namespace FrameFeed
namespace Message

variable {limit : Nat} {b p w x : Bytes} {m : Message} {ms : List Message}

/-- Appends messages to a buffer until one is refused. -/
def encodeAll : List Message → Bytes → Except WireError Unit × Bytes
  | [], b => (.ok (), b)
  | m :: ms, b =>
    match m.encodeTo b with
    | (.ok (), b) => encodeAll ms b
    | (.error e, b) => (.error e, b)

/-- Takes messages off a buffer, this many times. -/
def decodeTimes (limit : Nat) : Nat → Bytes → List (Except WireError (Option Message)) × Bytes
  | 0, b => ([], b)
  | n + 1, b =>
    let (r, b) := decodeFrom limit b
    let (rs, b) := decodeTimes limit n b
    (r :: rs, b)

/-! ## Appending -/

theorem encodeTo_of_encode (h : m.encode = .ok w) (b : Bytes) : m.encodeTo b = (.ok (), b ++ w) := by
  rw [encodeTo, h]

/-- A payload that no header can announce is refused. -/
theorem encodeTo_of_long (h : lengthLimit < m.payload.length) (b : Bytes) :
    m.encodeTo b = (.error (.payloadTooLarge m.payload.length lengthLimit), b) := by
  rw [encodeTo, encode, header, if_pos h]
  rfl

/-- Messages that fit are appended one after the other, to whatever the buffer holds. -/
theorem encodeAll_of_fits (h : ∀ m ∈ ms, m.Fits limit) :
    ∃ w, OnWire ms w ∧ ∀ b, encodeAll ms b = (.ok (), b ++ w) := by
  induction ms with
  | nil => exact ⟨[], rfl, fun b => by rw [encodeAll, List.append_nil]⟩
  | cons m ms ih =>
    obtain ⟨hm, hms⟩ := List.forall_mem_cons.1 h
    obtain ⟨w, hw⟩ := hm.encode
    obtain ⟨w', hwire, hall⟩ := ih hms
    refine ⟨w ++ w', ⟨w, w', hw, rfl, hwire⟩, fun b => ?_⟩
    rw [encodeAll, encodeTo_of_encode hw]
    exact (hall _).trans (by rw [List.append_assoc])

/-! ## Taking off -/

theorem OnWire.frames (hms : ∀ m ∈ ms, m.Fits limit) (h : OnWire ms w) (x : Bytes) :
    Frames limit ms (w ++ x) x := by
  induction ms generalizing w with
  | nil => rw [show w = [] from h]; rfl
  | cons m ms ih =>
    obtain ⟨w, w', hw, rfl, h⟩ := h
    obtain ⟨hm, hms⟩ := List.forall_mem_cons.1 hms
    refine ⟨w' ++ x, ?_, ih hms h⟩
    rw [List.append_assoc, decode_of_encode hw, if_neg (Nat.not_lt.2 hm.1)]

/-- Messages at the front of a buffer are taken off in order. -/
theorem Frames.decodeTimes_eq (h : Frames limit ms b x) :
    decodeTimes limit ms.length b = (ms.map fun m => .ok (some m), x) := by
  induction ms generalizing b with
  | nil => rw [show b = x from h]; rfl
  | cons m ms ih =>
    obtain ⟨b', hd, h⟩ := h
    simp only [List.length_cons, decodeTimes, decodeFrom, hd, ih h, List.map_cons]

/-- A message that is cut short asks for more: were it complete, or were its header refused, the bytes
that are missing would not matter. -/
theorem decode_of_cut (hm : m.Fits limit) (h : m.encode = .ok (p ++ x)) (hx : x ≠ []) :
    decode limit p = .ok none := by
  have hwhole : decode limit (p ++ x) = .ok (some (m, [])) := by
    have := @decode_of_encode limit _ _ h []
    rwa [List.append_nil, if_neg (Nat.not_lt.2 hm.1)] at this
  cases hd : decode limit p with
  | error e => rw [decode_append_of_error hd] at hwhole; cases hwhole
  | ok o =>
    cases o with
    | none => rfl
    | some front =>
      rw [decode_append_of_some hd, Except.ok.injEq, Option.some.injEq, Prod.mk.injEq] at hwhole
      exact absurd (List.append_eq_nil_iff.1 hwhole.2).2 hx

/-! ## There and back -/

/-- **Messages come off a buffer as they were put there.** Messages that fit are all appended, behind
whatever the buffer holds; taken off as often as there are, with whatever follows them, they come back
in order and leave what follows, and they are the first of all messages that are found. A part of a
message that fits is left as it is, and so is a buffer to which a message is appended that no header can
announce. -/
theorem decodeTimes_encodeAll (hms : ∀ m ∈ ms, m.Fits limit) :
    (∃ w, (∀ b, encodeAll ms b = (.ok (), b ++ w)) ∧ ∀ x,
      decodeTimes limit ms.length (w ++ x) = (ms.map fun m => .ok (some m), x) ∧
        (decodeAll limit (w ++ x)).1 = ms ++ (decodeAll limit x).1) ∧
    (∀ (m : Message) (p x : Bytes), m.Fits limit → m.encode = .ok (p ++ x) → x ≠ [] →
      decodeFrom limit p = (.ok none, p)) ∧
    ∀ (m : Message) (b : Bytes), lengthLimit < m.payload.length →
      m.encodeTo b = (.error (.payloadTooLarge m.payload.length lengthLimit), b) := by
  refine ⟨?_, ?_, fun m b h => encodeTo_of_long h b⟩
  · obtain ⟨w, hwire, hall⟩ := encodeAll_of_fits hms
    refine ⟨w, hall, fun x => ?_⟩
    have hframes := hwire.frames hms x
    exact ⟨hframes.decodeTimes_eq, hframes.decodeAll_eq⟩
  · intro m p x hm h hx
    rw [decodeFrom, decode_of_cut hm h hx]

/-- A message without a payload, then one whose payload is the header of a message. -/
def nested : List Message := [⟨.json, []⟩, ⟨.binary, [0x46, 0x57, 0, 0, 0, 0, 1, 0]⟩]

/-- What follows is the start of a third message, and stays. -/
theorem decodeTimes_encodeAll_nested : (∀ m ∈ nested, m.Fits 8) ∧
    (encodeAll nested [9]).1 = .ok () ∧
    decodeTimes 8 2 ((encodeAll nested []).2 ++ [0x46]) = (nested.map fun m => .ok (some m), [0x46]) := by
  have hms : ∀ m ∈ nested, m.Fits 8 := by decide
  obtain ⟨⟨w, hall, htimes⟩, -⟩ := decodeTimes_encodeAll hms
  refine ⟨hms, by rw [hall], ?_⟩
  rw [hall]
  exact (htimes [0x46]).1

end Message
end FrameFeed
