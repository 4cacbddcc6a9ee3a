import FrameFeed.Feed.Slot
import FrameFeed.Feed.Scripted
/-!
# A source fed through a slot

The source lets go of its frame before it asks for the next one, and its metadata follows the frames
it pulls.
-/
namespace FrameFeed

structure HandoffSource where
  metadata : Metadata
  slot : Slot := {}
  frame : Option PublishedFrame := none
  actions : Actions := fun a => .error (.unsupportedAction a)

namespace HandoffSource

/-- Takes up what a call to the slot gave. -/
def settle (answer : Except FrameError PublishedFrame) (h : HandoffSource) :
    Except FrameError Unit × HandoffSource :=
  match answer with
  | .ok f => (.ok (), { h with metadata := f.metadata, frame := some f })
  | .error e => (.error e, { h with frame := none })

/-- Pulls the next frame, while producers act. -/
def next (during : Option Nat → List Slot.Act) (h : HandoffSource) :
    List Slot.ActResult × Except FrameError Unit × HandoffSource :=
  let (rs, answer, slot) := h.slot.pull during
  (rs, settle answer { h with slot })

def current (h : HandoffSource) : Except FrameError View :=
  match h.frame with
  | some f => .ok ⟨f.metadata, f.data⟩
  | none => .error .noFrame

/-- Without a producer at work, a call gets what is there. -/
instance : FrameSource HandoffSource where
  metadata h := (.ok h.metadata, h)
  next h := let (_, r, h) := h.next fun _ => []; (.returned r, h)
  current h := .returned h.current
  execute a h := (.returned (h.actions a), h)

end HandoffSource
end FrameFeed
