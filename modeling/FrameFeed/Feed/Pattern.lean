import FrameFeed.Decimal.Digits
import FrameFeed.Feed.Source
import FrameFeed.Text.Blank
import FrameFeed.Text.Parts
/-!
# Synthetic frames

A pattern gives every frame of a stream by its number: a ramp of bytes that counts up, a board of
squares of eight by eight pixels that shifts by one square per frame, or one value throughout.
`byteAt` is one byte of a frame, `render` all of it. A source keeps one buffer for all its frames and
paints each over the one before (`paint_eq_fill`).
-/
namespace FrameFeed

inductive Pattern where
  | ramp
  | checker
  | solid (value : UInt8)
deriving DecidableEq, Repr, Inhabited

namespace Pattern

/-- Pixels on a side of a square of the board. -/
def cellSize : Nat := 8

/-- The pixel that byte `i` of a frame belongs to. -/
def pixelOf (m : Metadata) (i : Nat) : Nat :=
  let element := max m.elementType.size 1
  match m.layout with
  | .interleaved => i / (element * max m.channels 1)
  | _ => i / element % max m.pixels 1

/-- Byte `i` of frame number `sequence`. -/
def byteAt (p : Pattern) (sequence : Nat) (m : Metadata) (i : Nat) : UInt8 :=
  match p with
  | ramp => (sequence + i).toUInt8
  | solid v => v
  | checker =>
    let width := max m.width.toNat 1
    let pixel := pixelOf m i
    let cell := pixel % width / cellSize + pixel / width / cellSize + sequence
    if cell % 2 = 0 then 0 else 0xff

/-- The first `n` bytes of frame number `sequence`. -/
def fill (p : Pattern) (sequence : Nat) (m : Metadata) (n : Nat) : Bytes :=
  (List.range n).map (p.byteAt sequence m)

/-- Frame number `sequence`. -/
def render (p : Pattern) (sequence : Nat) (m : Metadata) : Bytes := p.fill sequence m m.size

theorem length_render (p : Pattern) (sequence : Nat) (m : Metadata) :
    (p.render sequence m).length = m.size := by
  simp [render, fill]

/-- Paints the front of frame number `sequence` over a buffer. -/
def paint (p : Pattern) (sequence : Nat) (m : Metadata) (buffer : Bytes) : Bytes :=
  buffer.mapIdx fun i _ => p.byteAt sequence m i

/-- Nothing of what the buffer held is left. -/
theorem paint_eq_fill (p : Pattern) (sequence : Nat) (m : Metadata) (buffer : Bytes) :
    p.paint sequence m buffer = p.fill sequence m buffer.length := by
  refine List.ext_getElem (by simp [paint, fill]) fun i _ _ => ?_
  simp [paint, fill]

def text : Pattern → String
  | ramp => "ramp"
  | checker => "checker"
  | solid v => s!"solid:{v}"

def parse (s : String) : Except FrameError Pattern :=
  let s := Text.trim s
  if s = "ramp" then .ok ramp
  else if s = "checker" then .ok checker
  else if s = "solid" then .ok (solid 0x80)
  else
    let value := do
      let digits ← Text.after? "solid:".toList s.toList
      Decimal.unsigned? 255 (.ofList digits)
    match value with
    | some v => .ok (solid v.toUInt8)
    | none => .error (.invalidParameter ("unknown pattern " ++ Text.quote s))

end Pattern

/-! ## A source of a pattern -/

/-- Renders the frames of a pattern, up to a limit. -/
structure PatternSource where
  metadata : Metadata
  pattern : Pattern
  limit : Option Nat := none
  /-- Frames since the start or the last reset. -/
  produced : Nat := 0
  /-- Where the frames are painted, one over the other. -/
  buffer : Bytes := []
  /-- What the buffer holds is the current frame. -/
  hasFrame : Bool := false
deriving DecidableEq, Repr

namespace PatternSource

/-- The bytes of the current frame. -/
def frame (s : PatternSource) : Option Bytes := if s.hasFrame then some s.buffer else none

def next (s : PatternSource) : Except FrameError Unit × PatternSource :=
  if s.limit.any (· ≤ s.produced) then (.error .endOfStream, { s with hasFrame := false })
  else
    let n := s.metadata.size
    (.ok (), { s with
      produced := s.produced + 1
      buffer := s.pattern.paint s.produced s.metadata ((s.buffer.take n).rightpad n 0)
      hasFrame := true })

theorem next_of_over {s : PatternSource} (h : s.limit.any (· ≤ s.produced) = true) :
    s.next = (.error .endOfStream, { s with hasFrame := false }) := if_pos h

/-- However long the buffer was, it holds the frame and nothing else. -/
theorem next_of_more {s : PatternSource} (h : s.limit.any (· ≤ s.produced) = false) :
    s.next = (.ok (), { s with
      produced := s.produced + 1
      buffer := s.pattern.render s.produced s.metadata
      hasFrame := true }) := by
  have hlength : ((s.buffer.take s.metadata.size).rightpad s.metadata.size 0).length = s.metadata.size := by
    rw [List.length_rightpad, List.length_take]
    omega
  simp only [next, h, Bool.false_eq_true, if_false, Pattern.paint_eq_fill, hlength, Pattern.render]

/-- The stream is over, or the next frame is rendered. -/
theorem next_cases (s : PatternSource) : s.next = (.error .endOfStream, { s with hasFrame := false }) ∨
    s.next = (.ok (), { s with
      produced := s.produced + 1
      buffer := s.pattern.render s.produced s.metadata
      hasFrame := true }) := by
  cases hover : s.limit.any (· ≤ s.produced) with
  | true => exact .inl (next_of_over hover)
  | false => exact .inr (next_of_more hover)

def current (s : PatternSource) : Except FrameError View :=
  if s.hasFrame then .ok ⟨s.metadata, s.buffer⟩ else .error .noFrame

def execute (action : String) (s : PatternSource) : Except FrameError Unit × PatternSource :=
  if action = "reset" then (.ok (), { s with produced := 0, hasFrame := false })
  else (.error (.unsupportedAction action), s)

instance : FrameSource PatternSource where
  metadata s := (.ok s.metadata, s)
  next s := (.returned s.next.1, s.next.2)
  current s := .returned s.current
  execute a s := (.returned (s.execute a).1, (s.execute a).2)

end PatternSource
end FrameFeed
