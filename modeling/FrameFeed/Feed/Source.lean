import FrameFeed.Frame.Error
import FrameFeed.Frame.View
/-!
# Frame sources

A source makes one frame at a time current: `next` advances it, `current` shows the frame, `execute`
runs an action of its own. `copyInto` copies the current frame to the front of a buffer, all of it or
nothing.
-/
namespace FrameFeed

/-- What a call comes to: it returns, or it crashes its caller. -/
inductive Call (α : Type) where
  | returned (r : Except FrameError α)
  | crashed

namespace Call

variable {α β : Type}

def ok (a : α) : Call α := .returned (.ok a)
def error (e : FrameError) : Call α := .returned (.error e)

def map (f : α → β) : Call α → Call β
  | returned (.ok a) => .ok (f a)
  | returned (.error e) => .error e
  | crashed => .crashed

end Call

class FrameSource (σ : Type) where
  metadata : σ → Call Metadata × σ
  next : σ → Call Unit × σ
  current : σ → Call View
  execute : String → σ → Call Unit × σ
  /-- The bytes of the current frame. -/
  bytes : σ → Call Bytes := fun s => (current s).map View.data

/-- One of two sources is a source. -/
instance {σ τ : Type} [FrameSource σ] [FrameSource τ] : FrameSource (σ ⊕ τ) where
  metadata
    | .inl s => let (r, s) := FrameSource.metadata s; (r, .inl s)
    | .inr s => let (r, s) := FrameSource.metadata s; (r, .inr s)
  next
    | .inl s => let (r, s) := FrameSource.next s; (r, .inl s)
    | .inr s => let (r, s) := FrameSource.next s; (r, .inr s)
  current
    | .inl s => FrameSource.current s
    | .inr s => FrameSource.current s
  execute a
    | .inl s => let (r, s) := FrameSource.execute a s; (r, .inl s)
    | .inr s => let (r, s) := FrameSource.execute a s; (r, .inr s)
  bytes
    | .inl s => FrameSource.bytes s
    | .inr s => FrameSource.bytes s

/-- A source in a box. -/
structure Boxed (σ : Type) where
  source : σ

/-- Every call is handed on to the source in the box. -/
instance {σ : Type} [FrameSource σ] : FrameSource (Boxed σ) where
  metadata b := let (r, source) := FrameSource.metadata b.source; (r, ⟨source⟩)
  next b := let (r, source) := FrameSource.next b.source; (r, ⟨source⟩)
  current b := FrameSource.current b.source
  execute a b := let (r, source) := FrameSource.execute a b.source; (r, ⟨source⟩)
  bytes b := FrameSource.bytes b.source

/-- Copies a frame to the front of a buffer, which has to hold what the metadata describes and what
there is; gives also the buffer afterwards. -/
def copyInto (frame : Except FrameError View) (buffer : Bytes) : Except FrameError View × Bytes :=
  match frame with
  | .error e => (.error e, buffer)
  | .ok v =>
    if buffer.length < max v.length v.metadata.size then
      (.error (.insufficientCapacity v.metadata buffer.length), buffer)
    else (.ok v, v.data ++ buffer.drop v.length)

end FrameFeed
