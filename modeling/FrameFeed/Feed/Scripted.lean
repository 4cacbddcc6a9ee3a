import FrameFeed.Feed.Source
/-!
# A source that follows a script

Every call to `next` plays the next item of the script, which may be a frame, an error or a crash;
after the last item the stream is over.
-/
namespace FrameFeed

/-- What one call to `next` does. -/
inductive Cue where
  /-- Makes a frame current; metadata given here replaces that of the source. -/
  | frame (data : Bytes) (metadata : Option Metadata)
  | fail (e : FrameError)
  | crash
deriving DecidableEq, Repr

/-- What the actions of a source do. -/
abbrev Actions := String → Except FrameError Unit

structure ScriptedSource where
  metadata : Except FrameError Metadata
  cues : List Cue := []
  actions : Actions := fun a => .error (.unsupportedAction a)
  frame : Option Bytes := none

namespace ScriptedSource

def next (s : ScriptedSource) : Call Unit × ScriptedSource :=
  let s := { s with frame := none }
  match s.cues with
  | [] => (.error .endOfStream, s)
  | .frame data m :: cues =>
    let metadata := match m with
      | some m => .ok m
      | none => s.metadata
    (.ok (), { s with cues, metadata, frame := some data })
  | .fail e :: cues => (.error e, { s with cues })
  | .crash :: cues => (.crashed, { s with cues })

def current (s : ScriptedSource) : Except FrameError View :=
  match s.frame with
  | some data => s.metadata.map (⟨·, data⟩)
  | none => .error .noFrame

instance : FrameSource ScriptedSource where
  metadata s := (.returned s.metadata, s)
  next := next
  current s := .returned s.current
  execute a s := (.returned (s.actions a), s)

end ScriptedSource
end FrameFeed
