import FrameFeed.Feed.Pattern
import FrameFeed.Proofs.Frame.Size
/-!
# The board in every layout

A byte of a frame belongs to an element, that to a channel of a pixel, and the layout decides at which index the
byte stands (`Position.offset`). The board is painted the other way round, from the index to the pixel; it finds
the right one in every layout (`pixelOf_offset`), so that the picture does not depend on the layout
(`checker_same_picture`).
-/
namespace FrameFeed

/-! ## Where the bytes of a pixel stand -/

/-- Numbers in two digits, the lower of which is below `n`. -/
theorem two_digits {a b n : Nat} (hb : b < n) : (a * n + b) / n = a ∧ (a * n + b) % n = b := by
  rw [Nat.mul_comm]
  refine ⟨?_, ?_⟩
  · rw [Nat.mul_add_div (by omega), Nat.div_eq_of_lt hb, Nat.add_zero]
  · rw [Nat.mul_add_mod, Nat.mod_eq_of_lt hb]

theorem two_digits_lt {a b k n : Nat} (ha : a < k) (hb : b < n) : a * n + b < k * n :=
  calc a * n + b < a * n + n := Nat.add_lt_add_left hb _
    _ = (a + 1) * n := (Nat.succ_mul a n).symm
    _ ≤ k * n := Nat.mul_le_mul_right n ha

theorem exists_two_digits {i k n : Nat} (h : i < k * n) : ∃ a < k, ∃ b < n, a * n + b = i := by
  have hn : 0 < n := Nat.pos_of_mul_pos_left (Nat.zero_lt_of_lt h)
  exact ⟨i / n, Nat.div_lt_of_lt_mul (Nat.mul_comm k n ▸ h), i % n, Nat.mod_lt i hn, Nat.div_add_mod' i n⟩

/-- One byte of an element, in one channel of one pixel. -/
structure Position where
  x : Nat
  y : Nat
  channel : Nat
  byte : Nat
deriving DecidableEq, Repr

namespace Position

/-- The position is one of frames that are so described. -/
structure In (m : Metadata) (q : Position) : Prop where
  x : q.x < m.width.toNat
  y : q.y < m.height.toNat
  channel : q.channel < m.channels
  byte : q.byte < m.elementType.size

/-- The number of the pixel, row by row. -/
def pixel (m : Metadata) (q : Position) : Nat := q.y * m.width.toNat + q.x

/-- The index of the byte in a frame. Only an interleaved frame keeps the channels of a pixel together. -/
def offset (m : Metadata) (q : Position) : Nat :=
  match m.layout with
  | .interleaved => (q.pixel m * m.channels + q.channel) * m.elementType.size + q.byte
  | _ => (q.channel * (m.width.toNat * m.height.toNat) + q.pixel m) * m.elementType.size + q.byte

variable {m : Metadata} {q : Position}

theorem pixel_lt (h : q.In m) : q.pixel m < m.width.toNat * m.height.toNat := by
  rw [Nat.mul_comm]
  exact two_digits_lt h.y h.x

theorem offset_lt (h : q.In m) : q.offset m < m.exactSize := by
  have hpixel := pixel_lt h
  have helements : ∀ n, n < m.elements → n * m.elementType.size + q.byte < m.exactSize := fun n hn =>
    two_digits_lt hn h.byte
  unfold offset
  split
  · exact helements _ (two_digits_lt hpixel h.channel)
  · refine helements _ ?_
    rw [Metadata.elements, Nat.mul_comm (m.width.toNat * m.height.toNat)]
    exact two_digits_lt h.channel hpixel

theorem exists_pixel {n : Nat} (h : n < m.width.toNat * m.height.toNat) :
    ∃ y < m.height.toNat, ∃ x < m.width.toNat, y * m.width.toNat + x = n :=
  exists_two_digits (by rwa [Nat.mul_comm])

/-- Every byte of a frame is one of an element. -/
theorem exists_offset {i : Nat} (h : i < m.exactSize) : ∃ q : Position, q.In m ∧ q.offset m = i := by
  obtain ⟨element, helement, byte, hbyte, rfl⟩ := exists_two_digits (k := m.elements) h
  cases hlayout : m.layout with
  | interleaved =>
    obtain ⟨pixel, hpixel, channel, hchannel, rfl⟩ := exists_two_digits helement
    obtain ⟨y, hy, x, hx, rfl⟩ := exists_pixel hpixel
    exact ⟨⟨x, y, channel, byte⟩, ⟨hx, hy, hchannel, hbyte⟩, by simp only [offset, hlayout, pixel]⟩
  | unknown | planar | semiplanar =>
    rw [Metadata.elements, Nat.mul_comm] at helement
    obtain ⟨channel, hchannel, pixel, hpixel, rfl⟩ := exists_two_digits helement
    obtain ⟨y, hy, x, hx, rfl⟩ := exists_pixel hpixel
    exact ⟨⟨x, y, channel, byte⟩, ⟨hx, hy, hchannel, hbyte⟩, by simp only [offset, hlayout, pixel]⟩

/-- The board finds the pixel that a byte belongs to. -/
theorem pixelOf_offset (h : q.In m) : Pattern.pixelOf m (q.offset m) = q.pixel m := by
  have hpixel := pixel_lt h
  have hsize : max m.elementType.size 1 = m.elementType.size := Nat.max_eq_left (Nat.zero_lt_of_lt h.byte)
  have hchannels : max m.channels 1 = m.channels := Nat.max_eq_left (Nat.zero_lt_of_lt h.channel)
  have hpixels : max m.pixels 1 = m.width.toNat * m.height.toNat := by
    rw [m.pixels_eq]
    exact Nat.max_eq_left (Nat.zero_lt_of_lt hpixel)
  unfold Pattern.pixelOf offset
  rw [hsize, hchannels, hpixels]
  cases m.layout with
  | interleaved =>
    dsimp only
    rw [← Nat.div_div_eq_div_mul, (two_digits h.byte).1, (two_digits h.channel).1]
  | unknown | planar | semiplanar =>
    dsimp only
    rw [(two_digits h.byte).1, (two_digits hpixel).2]

end Position

/-! ## The board -/

namespace Pattern

/-- The color of the square of eight by eight pixels that a pixel lies in. -/
def squareAt (sequence x y : Nat) : UInt8 := if (x / 8 + y / 8 + sequence) % 2 = 0 then 0 else 0xff

theorem byteAt_checker {m : Metadata} {q : Position} (h : q.In m) (sequence : Nat) :
    checker.byteAt sequence m (q.offset m) = squareAt sequence q.x q.y := by
  have hwidth : max m.width.toNat 1 = m.width.toNat := Nat.max_eq_left (Nat.zero_lt_of_lt h.x)
  obtain ⟨hy, hx⟩ : q.pixel m / m.width.toNat = q.y ∧ q.pixel m % m.width.toNat = q.x := two_digits h.x
  simp only [byteAt, Position.pixelOf_offset h, hwidth, hx, hy, cellSize, squareAt]

/-- The next frame has the other color at every index. -/
theorem byteAt_checker_succ (sequence : Nat) (m : Metadata) (i : Nat) :
    checker.byteAt (sequence + 1) m i = ~~~checker.byteAt sequence m i := by
  simp only [byteAt]
  generalize pixelOf m i % max m.width.toNat 1 / cellSize + pixelOf m i / max m.width.toNat 1 / cellSize = n
  rcases Nat.mod_two_eq_zero_or_one (n + sequence) with heven | hodd
  · have hnext : (n + (sequence + 1)) % 2 ≠ 0 := by omega
    rw [if_pos heven, if_neg hnext]
    rfl
  · have hthis : (n + sequence) % 2 ≠ 0 := by omega
    have hnext : (n + (sequence + 1)) % 2 = 0 := by omega
    rw [if_neg hthis, if_pos hnext]
    rfl

theorem getElem?_render {p : Pattern} {sequence : Nat} {m : Metadata} {i : Nat} (h : i < m.size) :
    (p.render sequence m)[i]? = some (p.byteAt sequence m i) := by
  rw [render, fill, List.getElem?_map, List.getElem?_range h, Option.map_some]

theorem render_checker_succ (sequence : Nat) (m : Metadata) :
    checker.render (sequence + 1) m = (checker.render sequence m).map (~~~·) := by
  rw [render, render, fill, fill, List.map_map]
  exact List.map_congr_left fun i _ => byteAt_checker_succ sequence m i

/-- The frame holds the color of the square at every byte of its pixels. -/
theorem getElem?_render_checker {m : Metadata} {q : Position} (hfits : m.checkedSize.isSome) (h : q.In m)
    (sequence : Nat) : (checker.render sequence m)[q.offset m]? = some (squareAt sequence q.x q.y) := by
  have hsize : m.size = m.exactSize := Metadata.size_eq_exactSize hfits
  rw [getElem?_render (hsize ▸ Position.offset_lt h), byteAt_checker h]

/-- **The board is the same picture in every layout.** Where the size of a frame fits in a word, each byte of the
frame is one of an element of a pixel, and is nought or all ones as the numbers of the pixel's square, across and
down, and of the frame add up to an even or an odd number. So the bytes of a pixel are all the same, frames in
other layouts show the same pixels, and the next frame has the other color throughout. -/
theorem checker_same_picture {m : Metadata} (hfits : m.checkedSize.isSome) (sequence : Nat) :
    (∀ i < m.size, ∃ q : Position, q.In m ∧ q.offset m = i) ∧
    (∀ q : Position, q.In m → (checker.render sequence m)[q.offset m]? =
      some (if (q.x / 8 + q.y / 8 + sequence) % 2 = 0 then 0 else 0xff)) ∧
    (∀ q r : Position, q.In m → r.In m → q.x = r.x → q.y = r.y →
      (checker.render sequence m)[q.offset m]? = (checker.render sequence m)[r.offset m]?) ∧
    (∀ (l : Layout) (q : Position), q.In m →
      (checker.render sequence { m with layout := l })[q.offset { m with layout := l }]? =
        (checker.render sequence m)[q.offset m]?) ∧
    checker.render (sequence + 1) m = (checker.render sequence m).map (~~~·) := by
  refine ⟨fun i hi => Position.exists_offset (Metadata.size_eq_exactSize hfits ▸ hi),
    fun q hq => getElem?_render_checker hfits hq sequence, fun q r hq hr hx hy => ?_, fun l q hq => ?_,
    render_checker_succ sequence m⟩
  · rw [getElem?_render_checker hfits hq, getElem?_render_checker hfits hr, hx, hy]
  · have hother : q.In { m with layout := l } := ⟨hq.x, hq.y, hq.channel, hq.byte⟩
    rw [getElem?_render_checker hfits hq, getElem?_render_checker (m := { m with layout := l }) hfits hother]

/-- A byte of a frame of six squares, which stands elsewhere in another layout. -/
theorem checker_same_picture_of_wide :
    let m : Metadata := ⟨.uint16, 20, 10, .rgb, .interleaved, "topLeft"⟩
    let planar : Metadata := { m with layout := .planar }
    let q : Position := ⟨17, 9, 1, 0⟩
    m.checkedSize.isSome ∧ q.offset m = 1184 ∧ q.offset planar = 794 ∧
    (checker.render 4 m)[q.offset m]? = some 0xff ∧ (checker.render 4 planar)[q.offset planar]? = some 0xff := by
  intro m planar q
  have hfits : m.checkedSize.isSome := by decide
  have hq : q.In m := ⟨by decide, by decide, by decide, by decide⟩
  obtain ⟨-, hcolor, -, hlayout, -⟩ := checker_same_picture hfits 4
  have hbyte : (checker.render 4 m)[q.offset m]? = some 0xff := (hcolor q hq).trans (by decide)
  exact ⟨hfits, by decide, by decide, hbyte, (hlayout .planar q hq).trans hbyte⟩

end Pattern
end FrameFeed
