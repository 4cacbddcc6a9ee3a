import FrameFeed.Proofs.Wire.Framing
/-!
# What a buffer is taken for

The header at the front of a buffer is looked at byte by byte (`announced`, `kindCode`), and `flaws` are all
that is wrong with it, each by itself. They decide what becomes of the buffer: the first of them is reported, and
without any the message is taken off as soon as enough bytes follow (`decode_of_header`). So it is known which
buffers are accepted, what is taken off and what stays, and that more bytes change nothing once there is an
answer (`decodeFrom_accepts`).
-/
namespace FrameFeed
namespace Message

/-- The length that a header announces. -/
def announced (b : Bytes) : Nat := Bytes.le32 (b.getD 2 0) (b.getD 3 0) (b.getD 4 0) (b.getD 5 0)

/-- The byte of a header that stands for the kind. -/
def kindCode (b : Bytes) : UInt8 := b.getD 6 0

/-- All that is wrong with a header, in the order magic, kind, length. -/
def flaws (limit : Nat) (b : Bytes) : List WireError :=
  (if b.take 2 = [0x46, 0x57] then [] else [.badMagic]) ++
    (if kindCode b = 1 ∨ kindCode b = 2 then [] else [.unknownKind (kindCode b)]) ++
    (if announced b ≤ limit then [] else [.payloadTooLarge (announced b) limit])

/-- How many bytes the announced message has, its header among them. -/
def extent (b : Bytes) : Nat := headerSize + announced b

theorem flaws_eq_nil {limit : Nat} {b : Bytes} : flaws limit b = [] ↔
    b.take 2 = [0x46, 0x57] ∧ (kindCode b = 1 ∨ kindCode b = 2) ∧ announced b ≤ limit := by
  simp only [flaws, List.append_eq_nil_iff, ite_eq_left_iff, List.cons_ne_nil, imp_false, Decidable.not_not,
    and_assoc]

section
variable {limit : Nat} {b r : Bytes} {m : Message} {e : WireError}

/-! ## The kind -/

theorem ofCode?_eq_none {k : UInt8} : Kind.ofCode? k = none ↔ ¬(k = 1 ∨ k = 2) := by
  unfold Kind.ofCode?
  split <;> simp_all

theorem code_of_ofCode? {k : UInt8} {kind : Kind} (h : Kind.ofCode? k = some kind) : kind.code = k := by
  unfold Kind.ofCode? at h
  split at h <;> cases h <;> rfl

/-! ## One buffer -/

/-- A buffer that holds a header, byte by byte. -/
theorem exists_header (h : headerSize ≤ b.length) : ∃ m₁ m₂ l₁ l₂ l₃ l₄ k x rest,
    b = m₁ :: m₂ :: l₁ :: l₂ :: l₃ :: l₄ :: k :: x :: rest := by
  rw [headerSize] at h
  rcases b with _ | ⟨m₁, _ | ⟨m₂, _ | ⟨l₁, _ | ⟨l₂, _ | ⟨l₃, _ | ⟨l₄, _ | ⟨k, _ | ⟨x, rest⟩⟩⟩⟩⟩⟩⟩⟩
  case cons.cons.cons.cons.cons.cons.cons.cons => exact ⟨_, _, _, _, _, _, _, _, _, rfl⟩
  -- all other buffers are shorter
  all_goals
    simp only [List.length_cons, List.length_nil] at h
    omega

theorem decode_of_short (h : b.length < headerSize) : decode limit b = .ok none := by
  unfold decode
  split
  · simp only [headerSize, List.length_cons] at h
    omega
  · rfl

/-- The first flaw of a header is reported. Without flaws it stands before the message that it announces. -/
theorem decode_of_header (limit : Nat) (hlen : headerSize ≤ b.length) :
    (∃ e, (flaws limit b).head? = some e ∧ decode limit b = .error e) ∨
      flaws limit b = [] ∧ ∃ kind : Kind, kind.code = kindCode b ∧
        decode limit b = .ok (if b.length < extent b then none
          else some (⟨kind, (b.take (extent b)).drop headerSize⟩, b.drop (extent b))) := by
  obtain ⟨m₁, m₂, l₁, l₂, l₃, l₄, k, x, rest, rfl⟩ := exists_header hlen
  have hflaws : flaws limit (m₁ :: m₂ :: l₁ :: l₂ :: l₃ :: l₄ :: k :: x :: rest) =
      (if m₁ = 0x46 ∧ m₂ = 0x57 then [] else [.badMagic]) ++
        (if k = 1 ∨ k = 2 then [] else [.unknownKind k]) ++
        (if Bytes.le32 l₁ l₂ l₃ l₄ ≤ limit then [] else [.payloadTooLarge (Bytes.le32 l₁ l₂ l₃ l₄) limit]) := by
    simp [flaws, kindCode, announced]
  rw [hflaws]
  simp only [decode]
  by_cases hmagic : m₁ = 0x46 ∧ m₂ = 0x57
  · have hread : ¬(m₁ ≠ 0x46 ∨ m₂ ≠ 0x57) := by simp [hmagic]
    rw [if_pos hmagic, if_neg hread]
    cases hk : Kind.ofCode? k with
    | none =>
      rw [if_neg (ofCode?_eq_none.1 hk)]
      exact .inl ⟨_, rfl, rfl⟩
    | some kind =>
      have hkind : k = 1 ∨ k = 2 := by
        refine Decidable.byContradiction fun hno => ?_
        rw [ofCode?_eq_none.2 hno] at hk
        cases hk
      rw [if_pos hkind]
      by_cases hlimit : Bytes.le32 l₁ l₂ l₃ l₄ ≤ limit
      · rw [if_pos hlimit]
        refine .inr ⟨rfl, kind, code_of_ofCode? hk, ?_⟩
        have hextent : extent (m₁ :: m₂ :: l₁ :: l₂ :: l₃ :: l₄ :: k :: x :: rest) =
            Bytes.le32 l₁ l₂ l₃ l₄ + 8 := Nat.add_comm ..
        simp only [if_neg (Nat.not_lt.2 hlimit), hextent]
        by_cases hall : rest.length < Bytes.le32 l₁ l₂ l₃ l₄
        · rw [if_pos hall, if_pos (by simp only [List.length_cons]; omega)]
        · rw [if_neg hall, if_neg (by simp only [List.length_cons]; omega)]
          rfl
      · rw [if_neg hlimit]
        exact .inl ⟨_, rfl, if_pos (Nat.lt_of_not_le hlimit)⟩
  · have hread : m₁ ≠ 0x46 ∨ m₂ ≠ 0x57 := Decidable.not_and_iff_or_not.1 hmagic
    rw [if_neg hmagic, if_pos hread]
    exact .inl ⟨_, rfl, rfl⟩

theorem decode_eq_error_iff :
    decode limit b = .error e ↔ headerSize ≤ b.length ∧ (flaws limit b).head? = some e := by
  rcases Nat.lt_or_ge b.length headerSize with hshort | hlen
  · rw [decode_of_short hshort]
    constructor
    · intro h
      cases h
    · rintro ⟨hlen, -⟩
      omega
  · rcases decode_of_header limit hlen with ⟨e', he', hd⟩ | ⟨hsound, kind, -, hd⟩
    · simp [hd, he', hlen]
    · simp [hd, hsound]

/-- What is taken off: the message that the header announces, of the kind that it names. -/
theorem decode_eq_some_iff : decode limit b = .ok (some (m, r)) ↔
    (headerSize ≤ b.length ∧ flaws limit b = [] ∧ extent b ≤ b.length) ∧
      m.kind.code = kindCode b ∧ m.payload = (b.take (extent b)).drop headerSize ∧ r = b.drop (extent b) := by
  rcases Nat.lt_or_ge b.length headerSize with hshort | hlen
  · rw [decode_of_short hshort]
    constructor
    · intro h
      cases h
    · rintro ⟨⟨hlen, -⟩, -⟩
      omega
  · rcases decode_of_header limit hlen with ⟨e, he, hd⟩ | ⟨hsound, kind, hkind, hd⟩
    · rw [hd]
      constructor
      · intro h
        cases h
      · rintro ⟨⟨-, hsound, -⟩, -⟩
        rw [hsound] at he
        cases he
    · rw [hd]
      constructor
      · intro h
        by_cases hall : b.length < extent b
        · rw [if_pos hall] at h
          cases h
        · rw [if_neg hall] at h
          cases h
          exact ⟨⟨hlen, hsound, Nat.le_of_not_lt hall⟩, hkind, rfl, rfl⟩
      · rintro ⟨⟨-, -, hall⟩, hkind', hpayload, rfl⟩
        have hcode := congrArg Kind.ofCode? (hkind.trans hkind'.symm)
        rw [Kind.ofCode?_code, Kind.ofCode?_code] at hcode
        rw [if_neg (Nat.not_lt.2 hall), ← hpayload, Option.some.inj hcode]

/-- What was taken off is the message on the wire, but for the reserved byte. -/
theorem encode_of_decode (h : decode limit b = .ok (some (m, r))) :
    m.encode = .ok ((b.take (extent b)).set 7 0) := by
  obtain ⟨⟨hlen, hsound, hall⟩, hkind, hpayload, -⟩ := decode_eq_some_iff.1 h
  obtain ⟨m₁, m₂, l₁, l₂, l₃, l₄, k, x, rest, rfl⟩ := exists_header hlen
  have hextent : extent (m₁ :: m₂ :: l₁ :: l₂ :: l₃ :: l₄ :: k :: x :: rest) =
      Bytes.le32 l₁ l₂ l₃ l₄ + 8 := Nat.add_comm ..
  have hmagic : m₁ = 0x46 ∧ m₂ = 0x57 := by
    refine Decidable.byContradiction fun hno => ?_
    simp [flaws, hno] at hsound
  rw [hextent, List.length_cons] at hall
  rw [hextent] at hpayload ⊢
  change m.payload = rest.take (Bytes.le32 l₁ l₂ l₃ l₄) at hpayload
  have hlength : m.payload.length = Bytes.le32 l₁ l₂ l₃ l₄ := by
    rw [hpayload, List.length_take]
    simp only [List.length_cons] at hall
    omega
  have hlong : ¬lengthLimit < Bytes.le32 l₁ l₂ l₃ l₄ := by
    have := Bytes.le32_lt l₁ l₂ l₃ l₄
    simp only [lengthLimit]
    omega
  rw [encode, header, hlength, if_neg hlong, Bytes.word32_le32, hpayload, hmagic.1, hmagic.2,
    show m.kind.code = k from hkind]
  rfl

end

/-! ## The answer and what is left -/

section
variable {limit : Nat} {b r : Bytes} {m : Message} {e : WireError}

theorem decodeFrom_eq_some : decodeFrom limit b = (.ok (some m), r) ↔ decode limit b = .ok (some (m, r)) := by
  rw [decodeFrom]
  rcases decode limit b with e | _ | ⟨m', r'⟩ <;> simp

theorem decodeFrom_eq_error : decodeFrom limit b = (.error e, r) ↔ decode limit b = .error e ∧ b = r := by
  rw [decodeFrom]
  rcases decode limit b with e' | _ | ⟨m', r'⟩ <;> simp

end

/-- **What is accepted.** A message is taken off a buffer exactly if it begins with a header in which nothing is
wrong and all the bytes that the header announces are there: exactly these are taken off, they are the payload,
and the message is written as they were, but for the reserved byte. An error is reported exactly if there is
a header in which something is wrong, and it is the first that is. Unless a message is taken off, the buffer
stays as it is. More bytes change neither the message nor the error, and stay behind what is left. -/
theorem decodeFrom_accepts (limit : Nat) (b : Bytes) :
    ((∃ m, (decodeFrom limit b).1 = .ok (some m)) ↔
      headerSize ≤ b.length ∧ b.take 2 = [0x46, 0x57] ∧ (kindCode b = 1 ∨ kindCode b = 2) ∧
        announced b ≤ limit ∧ extent b ≤ b.length) ∧
    (∀ m r, decodeFrom limit b = (.ok (some m), r) →
      b = b.take (extent b) ++ r ∧ m.payload = (b.take (extent b)).drop headerSize ∧
        m.wireSize = extent b ∧ m.encode = .ok ((b.take (extent b)).set 7 0)) ∧
    (∀ e, (decodeFrom limit b).1 = .error e ↔
      headerSize ≤ b.length ∧ (flaws limit b).head? = some e) ∧
    ((∀ m, (decodeFrom limit b).1 ≠ .ok (some m)) → (decodeFrom limit b).2 = b) ∧
    ∀ x : Bytes,
      (∀ m r, decodeFrom limit b = (.ok (some m), r) → decodeFrom limit (b ++ x) = (.ok (some m), r ++ x)) ∧
      ∀ e, (decodeFrom limit b).1 = .error e → decodeFrom limit (b ++ x) = (.error e, b ++ x) := by
  have hsome : ∀ {m}, (decodeFrom limit b).1 = .ok (some m) →
      decode limit b = .ok (some (m, (decodeFrom limit b).2)) :=
    fun h => decodeFrom_eq_some.1 (Prod.ext h rfl)
  have herror : ∀ {e}, (decodeFrom limit b).1 = .error e ↔ decode limit b = .error e :=
    ⟨fun h => (decodeFrom_eq_error.1 (Prod.ext h rfl)).1,
      fun h => congrArg Prod.fst (decodeFrom_eq_error.2 ⟨h, rfl⟩)⟩
  refine ⟨⟨?_, ?_⟩, ?_, ?_, ?_, ?_⟩
  · rintro ⟨m, h⟩
    obtain ⟨⟨hlen, hsound, hall⟩, -⟩ := decode_eq_some_iff.1 (hsome h)
    obtain ⟨hmagic, hkind, hlimit⟩ := flaws_eq_nil.1 hsound
    exact ⟨hlen, hmagic, hkind, hlimit, hall⟩
  · rintro ⟨hlen, hmagic, hkind, hlimit, hall⟩
    have hsound := flaws_eq_nil.2 ⟨hmagic, hkind, hlimit⟩
    rcases decode_of_header limit hlen with ⟨e, he, -⟩ | ⟨-, kind, -, hd⟩
    · rw [hsound] at he
      cases he
    · rw [if_neg (Nat.not_lt.2 hall)] at hd
      exact ⟨_, congrArg Prod.fst (decodeFrom_eq_some.2 hd)⟩
  · intro m r h
    have hd := decodeFrom_eq_some.1 h
    obtain ⟨⟨hlen, -, hall⟩, -, hpayload, rfl⟩ := decode_eq_some_iff.1 hd
    refine ⟨(List.take_append_drop _ b).symm, hpayload, ?_, encode_of_decode hd⟩
    have := length_of_decode hd
    rw [List.length_drop] at this
    omega
  · intro e
    rw [herror, decode_eq_error_iff]
  · intro hnone
    unfold decodeFrom at hnone ⊢
    split
    · rfl
    · rfl
    · rename_i m r hd
      exact absurd (by rw [hd]) (hnone m)
  · intro x
    refine ⟨?_, ?_⟩
    · intro m r h
      exact decodeFrom_eq_some.2 (decode_append_of_some (decodeFrom_eq_some.1 h) x)
    · intro e h
      exact decodeFrom_eq_error.2 ⟨decode_append_of_error (herror.1 h) x, rfl⟩

/-- The reserved byte is not looked at, and the byte behind the message stays. -/
example : decodeFrom 4 [0x46, 0x57, 1, 0, 0, 0, 2, 9, 0x61, 0x62] = (.ok (some ⟨.binary, [0x61]⟩), [0x62]) := by
  decide

/-- Magic, kind and length are all wrong, and the magic is reported. -/
example : decodeFrom 4 [0x57, 0x46, 5, 0, 0, 0, 3, 0] = (.error .badMagic, [0x57, 0x46, 5, 0, 0, 0, 3, 0]) := by
  decide

end Message
end FrameFeed
