import FrameFeed.Wire.Message
/-!
# Messages at the front of a buffer

What the front of a buffer holds does not depend on the bytes behind it (`decode_append_of_some`,
`decode_append_of_error`). `Frames` says that some messages stand at the front one after the other;
they are then the first of all that are found (`Frames.decodeAll_eq`). `OnWire` says that some bytes
are messages written out, and these are the messages found (`OnWire.decodeAll_eq`).
-/
namespace FrameFeed

instance decidableEqExcept {ε α : Type} [DecidableEq ε] [DecidableEq α] : DecidableEq (Except ε α)
  | .ok a, .ok b => decidable_of_iff (a = b) ⟨congrArg _, Except.ok.inj⟩
  | .error a, .error b => decidable_of_iff (a = b) ⟨congrArg _, Except.error.inj⟩
  | .ok _, .error _ => isFalse nofun
  | .error _, .ok _ => isFalse nofun

namespace Message

variable {limit : Nat} {b r w : Bytes} {m : Message} {e : WireError}

theorem decode_append_of_some (h : decode limit b = .ok (some (m, r))) (x : Bytes) :
    decode limit (b ++ x) = .ok (some (m, r ++ x)) := by
  unfold decode at h
  split at h
  · rename_i m₁ m₂ l₁ l₂ l₃ l₄ k _ rest
    simp only [List.cons_append, decode]
    split at h
    · cases h
    · rename_i hmagic
      rw [if_neg hmagic]
      cases hk : Kind.ofCode? k with
      | none => simp [hk] at h
      | some kind =>
        simp only [hk] at h ⊢
        split at h
        · cases h
        · rename_i hlimit
          split at h
          · cases h
          · rename_i hlength
            cases h
            rw [if_neg hlimit, if_neg (by rw [List.length_append]; omega),
              List.take_append_of_le_length (by omega), List.drop_append_of_le_length (by omega)]
  · cases h

theorem decode_append_of_error (h : decode limit b = .error e) (x : Bytes) :
    decode limit (b ++ x) = .error e := by
  unfold decode at h
  split at h
  · rename_i m₁ m₂ l₁ l₂ l₃ l₄ k _ rest
    simp only [List.cons_append, decode]
    split at h
    · rename_i hmagic
      rw [if_pos hmagic]; exact h
    · rename_i hmagic
      rw [if_neg hmagic]
      cases hk : Kind.ofCode? k with
      | none => simpa [hk] using h
      | some kind =>
        simp only [hk] at h ⊢
        split at h
        · rename_i hlimit
          rw [if_pos hlimit]; exact h
        · split at h <;> cases h
  · cases h

/-- A header that cannot be read is no failure of the stream. -/
theorem decode_error (h : decode limit b = .error e) : e ≠ .closed ∧ e.isTimeout = false := by
  unfold decode at h
  split at h
  · split at h
    · cases h; exact ⟨nofun, rfl⟩
    · split at h
      · cases h; exact ⟨nofun, rfl⟩
      · simp only at h
        split at h
        · cases h; exact ⟨nofun, rfl⟩
        · split at h <;> cases h
  · cases h

/-! ## All messages of a buffer -/

theorem decodeAll_of_some (h : decode limit b = .ok (some (m, r))) :
    decodeAll limit b =
      (m :: (decodeAll limit r).1, (decodeAll limit r).2.1, (decodeAll limit r).2.2) := by
  rw [decodeAll]
  split <;> rename_i hd <;> rw [h] at hd <;> cases hd
  rfl

theorem decodeAll_of_none (h : decode limit b = .ok none) : decodeAll limit b = ([], b, none) := by
  rw [decodeAll]
  split <;> rename_i hd <;> rw [h] at hd <;> cases hd

theorem decodeAll_of_error (h : decode limit b = .error e) :
    decodeAll limit b = ([], b, some e) := by
  rw [decodeAll]
  split <;> rename_i hd <;> rw [h] at hd <;> cases hd
  rfl

theorem decode_of_decodeAll_cons {ms : List Message} (h : (decodeAll limit b).1 = m :: ms) :
    ∃ r, decode limit b = .ok (some (m, r)) := by
  cases hd : decode limit b with
  | error e => rw [decodeAll_of_error hd] at h; cases h
  | ok o =>
    cases o with
    | none => rw [decodeAll_of_none hd] at h; cases h
    | some p => rw [decodeAll_of_some hd] at h; cases h; exact ⟨_, rfl⟩

/-- `ms` stand at the front of `b`, one after the other, and `r` follows them. -/
def Frames (limit : Nat) : List Message → Bytes → Bytes → Prop
  | [], b, r => b = r
  | m :: ms, b, r => ∃ b', decode limit b = .ok (some (m, b')) ∧ Frames limit ms b' r

theorem Frames.append {ms ms' : List Message} {b' : Bytes} (h : Frames limit ms b b')
    (h' : Frames limit ms' b' r) : Frames limit (ms ++ ms') b r := by
  induction ms generalizing b with
  | nil => exact (show b = b' from h) ▸ h'
  | cons m ms ih =>
    obtain ⟨b₁, hd, h⟩ := h
    exact ⟨b₁, hd, ih h⟩

/-- Messages that stand at the front of a buffer are the first that are found in it. -/
theorem Frames.decodeAll_eq {ms : List Message} (h : Frames limit ms b r) :
    (decodeAll limit b).1 = ms ++ (decodeAll limit r).1 := by
  induction ms generalizing b with
  | nil => rw [show b = r from h, List.nil_append]
  | cons m ms ih =>
    obtain ⟨b', hd, h⟩ := h
    rw [decodeAll_of_some hd, ih h, List.cons_append]

/-! ## Messages written out -/

/-- `b` is these messages on the wire, one after the other. -/
def OnWire : List Message → Bytes → Prop
  | [], b => b = []
  | m :: ms, b => ∃ w b', encode m = .ok w ∧ b = w ++ b' ∧ OnWire ms b'

theorem OnWire.append {ms ms' : List Message} {b' : Bytes} (h : OnWire ms b) (h' : OnWire ms' b') :
    OnWire (ms ++ ms') (b ++ b') := by
  induction ms generalizing b with
  | nil => rw [show b = [] from h]; exact h'
  | cons m ms ih =>
    obtain ⟨w, b₁, hw, rfl, h⟩ := h
    exact ⟨w, b₁ ++ b', hw, List.append_assoc .., ih h⟩

theorem OnWire.single (h : encode m = .ok w) : OnWire [m] w :=
  ⟨w, [], h, (List.append_nil w).symm, rfl⟩

theorem encode_eq_ok (h : encode m = .ok w) : m.payload.length ≤ lengthLimit ∧
    w = 0x46 :: 0x57 :: Bytes.word32 m.payload.length ++ [m.kind.code, 0] ++ m.payload := by
  unfold encode header at h
  split at h
  · cases h
  · rename_i hl
    cases h; exact ⟨Nat.not_lt.1 hl, rfl⟩

/-- A message that is written out is found at the front of whatever follows it, unless it is over the
limit. -/
theorem decode_of_encode (h : encode m = .ok w) (x : Bytes) :
    decode limit (w ++ x) =
      if limit < m.payload.length then .error (.payloadTooLarge m.payload.length limit)
      else .ok (some (m, x)) := by
  obtain ⟨hlen, rfl⟩ := encode_eq_ok h
  have hword : Bytes.le32 _ _ _ _ = m.payload.length :=
    Bytes.le32_word32 (by simp only [lengthLimit] at hlen; omega)
  have hall : ¬(m.payload ++ x).length < m.payload.length := by rw [List.length_append]; omega
  simp only [Bytes.word32, List.cons_append, List.nil_append, decode, Kind.ofCode?_code, hword]
  rw [if_neg (by simp), if_neg hall, List.take_left, List.drop_left]

/-- Messages that are written out are all that are found. -/
theorem OnWire.decodeAll_eq {ms : List Message} (h : OnWire ms b) (hl : lengthLimit ≤ limit) :
    decodeAll limit b = (ms, [], none) := by
  induction ms generalizing b with
  | nil =>
    rw [show b = [] from h]
    exact decodeAll_of_none rfl
  | cons m ms ih =>
    obtain ⟨w, b', hw, rfl, h⟩ := h
    have hlen := (encode_eq_ok hw).1
    have hd : decode limit (w ++ b') = .ok (some (m, b')) := by
      rw [decode_of_encode hw, if_neg (by omega)]
    rw [decodeAll_of_some hd, ih h]

theorem OnWire.eq_nil {ms : List Message} (h : OnWire ms []) : ms = [] := by
  have hall := h.decodeAll_eq (Nat.le_refl lengthLimit)
  rw [decodeAll_of_none rfl] at hall
  exact (congrArg Prod.fst hall).symm

/-- Wherever they are cut off, the messages found are the first of those written out. -/
theorem OnWire.prefix_of_decodeAll {ms : List Message} {x : Bytes} (h : OnWire ms (b ++ x)) :
    (decodeAll limit b).1 <+: ms := by
  induction ms generalizing b with
  | nil =>
    obtain ⟨rfl, -⟩ := List.append_eq_nil_iff.1 (show b ++ x = [] from h)
    have hnone := decodeAll_of_none (show decode limit [] = .ok none from rfl)
    simp [hnone]
  | cons m ms ih =>
    obtain ⟨w, b', hw, hb, h⟩ := h
    have hencode := hb ▸ @decode_of_encode limit _ _ hw b'
    cases hd : decode limit b with
    | error e => rw [decodeAll_of_error hd]; exact List.nil_prefix
    | ok o =>
      cases o with
      | none => rw [decodeAll_of_none hd]; exact List.nil_prefix
      | some p =>
        rw [decode_append_of_some hd] at hencode
        split at hencode
        · cases hencode
        · cases hencode
          rw [decodeAll_of_some hd]
          exact List.cons_prefix_cons.2 ⟨rfl, ih h⟩

end Message
end FrameFeed
