import FrameFeed.Frame.Metadata
/-!
# The size of a frame

The bytes of a frame are a product of four numbers, which is formed from left to right. All pixels can be counted
in a word (`pixels_eq`), and as long as no factor is nought, a product that does not fit in a word stays too
large. Only the last factor can be nought while those before it are not: the elements of an unknown type take no
bytes, and there may be too many of them to count (`Uncounted`). In this case alone `checkedSize` gives up
although the frame, being empty, fits; everywhere else it is exact (`checkedSize_eq`).
-/
namespace FrameFeed

theorem checkedMul_eq_some {a b n : Nat} : checkedMul a b = some n ↔ a * b < wordLimit ∧ n = a * b := by
  rw [checkedMul, Option.ite_none_right_eq_some, Option.some.injEq, eq_comm (a := n)]

theorem ElementType.size_eq_zero {t : ElementType} : t.size = 0 ↔ t = .unknown := by
  cases t <;> decide

namespace Metadata

/-- Channels of all pixels, without a limit. -/
def elements (m : Metadata) : Nat := m.width.toNat * m.height.toNat * m.channels

/-- Bytes of a frame, without a limit. -/
def exactSize (m : Metadata) : Nat := m.width.toNat * m.height.toNat * m.channels * m.elementType.size

/-- The elements take no bytes, but there are too many of them for a word. -/
def Uncounted (m : Metadata) : Prop := m.elementType = .unknown ∧ wordLimit ≤ m.elements

instance (m : Metadata) : Decidable m.Uncounted := inferInstanceAs (Decidable (_ ∧ _))

variable {m : Metadata}

theorem pixels_lt (m : Metadata) : m.width.toNat * m.height.toNat < wordLimit := by
  have hwidth : m.width.toNat ≤ 0xffffffff := Nat.le_of_lt_succ m.width.toNat_lt
  have hheight : m.height.toNat ≤ 0xffffffff := Nat.le_of_lt_succ m.height.toNat_lt
  calc m.width.toNat * m.height.toNat ≤ 0xffffffff * 0xffffffff := Nat.mul_le_mul hwidth hheight
    _ < wordLimit := by decide

theorem pixels_eq (m : Metadata) : m.pixels = m.width.toNat * m.height.toNat :=
  Nat.min_eq_left (Nat.le_of_lt_succ m.pixels_lt)

theorem exactSize_of_uncounted (h : m.Uncounted) : m.exactSize = 0 := by
  rw [exactSize, h.1]
  exact Nat.mul_zero _

/-- Where the bytes can be counted, the elements can, unless they take none. -/
theorem elements_lt_of_exactSize (hsize : m.exactSize < wordLimit) (hcounted : ¬m.Uncounted) :
    m.elements < wordLimit := by
  by_cases hunknown : m.elementType = .unknown
  · exact Nat.lt_of_not_le fun hmany => hcounted ⟨hunknown, hmany⟩
  · have hpos : 0 < m.elementType.size := Nat.pos_of_ne_zero (mt ElementType.size_eq_zero.1 hunknown)
    calc m.elements ≤ m.elements * m.elementType.size := Nat.le_mul_of_pos_right _ hpos
      _ < wordLimit := hsize

theorem checkedSize_eq_some {n : Nat} :
    m.checkedSize = some n ↔ m.elements < wordLimit ∧ m.exactSize < wordLimit ∧ n = m.exactSize := by
  have hsteps : m.checkedSize = (checkedMul m.width.toNat m.height.toNat).bind fun pixels =>
      (checkedMul pixels m.channels).bind fun elements => checkedMul elements m.elementType.size := rfl
  simp only [hsteps, Option.bind_eq_some_iff, checkedMul_eq_some]
  constructor
  · rintro ⟨pixels, ⟨-, rfl⟩, elements, ⟨helements, rfl⟩, hsize, rfl⟩
    exact ⟨helements, hsize, rfl⟩
  · rintro ⟨helements, hsize, rfl⟩
    exact ⟨_, ⟨m.pixels_lt, rfl⟩, _, ⟨helements, rfl⟩, hsize, rfl⟩

/-- A size that is found is the exact one. -/
theorem size_eq_exactSize (h : m.checkedSize.isSome) : m.size = m.exactSize := by
  obtain ⟨n, hn⟩ := Option.isSome_iff_exists.1 h
  rw [size, hn, Option.getD_some, (checkedSize_eq_some.1 hn).2.2]

/-- The size is exact where it fits, unless the elements take no bytes and are too many to count. -/
theorem checkedSize_eq (m : Metadata) :
    m.checkedSize = if m.exactSize < wordLimit ∧ ¬m.Uncounted then some m.exactSize else none := by
  split
  · next h => exact checkedSize_eq_some.2 ⟨elements_lt_of_exactSize h.1 h.2, h.1, rfl⟩
  · next h =>
    refine Option.eq_none_iff_forall_ne_some.2 fun n hn => h ?_
    obtain ⟨helements, hsize, -⟩ := checkedSize_eq_some.1 hn
    exact ⟨hsize, fun huncounted => Nat.not_le.2 helements huncounted.2⟩

theorem size_eq (m : Metadata) :
    m.size = if m.Uncounted then wordLimit - 1 else min m.exactSize (wordLimit - 1) := by
  rw [size, checkedSize_eq]
  by_cases huncounted : m.Uncounted
  · rw [if_pos huncounted, if_neg fun h => h.2 huncounted]
    rfl
  · rw [if_neg huncounted]
    by_cases hsize : m.exactSize < wordLimit
    · rw [if_pos ⟨hsize, huncounted⟩, Nat.min_eq_left (Nat.le_sub_one_of_lt hsize)]
      rfl
    · rw [if_neg fun h => hsize h.1, Nat.min_eq_right (Nat.sub_le_of_le_add (by omega))]
      rfl

/-- **Sizes are exact up to the largest word, unless they are nought and the elements cannot be counted.** The
pixels are always counted exactly. The checked size is the product where it fits, and the size is the product or
the largest word, but for frames of an unknown type with more elements than a word can count: they have no bytes,
but their size is not found, and is taken to be the largest word. -/
theorem sizes_exact (m : Metadata) :
    m.pixels = m.width.toNat * m.height.toNat ∧
    (m.checkedSize = if m.exactSize < wordLimit ∧ ¬m.Uncounted then some m.exactSize else none) ∧
    (m.size = if m.Uncounted then wordLimit - 1 else min m.exactSize (wordLimit - 1)) ∧
    (m.Uncounted → m.exactSize = 0) :=
  ⟨m.pixels_eq, m.checkedSize_eq, m.size_eq, exactSize_of_uncounted⟩

/-- Four channels of unknown type for as many pixels as there can be. -/
theorem checkedSize_of_uncounted :
    let m : Metadata := ⟨.unknown, 0xffffffff, 0xffffffff, .rgba, .planar, "topLeft"⟩
    m.exactSize = 0 ∧ m.checkedSize = none ∧ m.size = wordLimit - 1 := by
  decide

end Metadata
end FrameFeed
