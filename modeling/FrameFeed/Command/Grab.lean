import FrameFeed.Command.Failure
import FrameFeed.Command.Output
import FrameFeed.Exchange.Client
/-!
# Grabbing frames

`Grab.pull` fetches frames until it has as many as it should or the stream is over. A timeout or an
overflow is tried again, but only so many times in a row; any other failure is final. All frames are
copied to one buffer. It is asked for beforehand, as large as the metadata say, and a size that no
buffer can have crashes the caller.
-/
namespace FrameFeed.Grab

variable {σ : Type}

/-- The size of the largest buffer there can be. -/
def bufferLimit : Nat := 0x7fffffffffffffff

/-- Copies a frame into a buffer, which is made as large as the frame if it is too small. -/
def copyGrowing (frame : Except FrameError View) (buffer : Bytes) : Except FrameError View × Bytes :=
  match copyInto frame buffer with
  | (.error (.insufficientCapacity m _), buffer) =>
    copyInto frame (buffer.take m.size ++ List.replicate (m.size - buffer.length) 0)
  | r => r

/-- A frame as it is read off the front of the buffer it was copied to. -/
def readBack (v : View) (buffer : Bytes) : View := ⟨v.metadata, buffer.take v.length⟩

/-- Pulls `left` more frames. `failures` counts the attempts since the last frame that failed and may
be made again. -/
def pull [Channel σ] (retries : Nat) (left failures : Nat) (buffer : Bytes)
    (frames : List FrameSummary) (c : Client σ) : Except Failure (List FrameSummary) × Client σ :=
  match left with
  | 0 => (.ok frames, c)
  | left + 1 =>
    match c.next with
    | (.ok (), c) =>
      match copyGrowing c.current buffer with
      | (.ok v, buffer) =>
        let summary := FrameSummary.ofView frames.length (readBack v buffer)
        pull retries left 0 buffer (frames ++ [summary]) c
      | (.error e, _) => (.error (.ofFrame "frame copy failed" e), c)
    | (.error .endOfStream, c) => (.ok frames, c)
    | (.error e, c) =>
      if e.isRecoverable ∧ failures < retries then
        pull retries (left + 1) (failures + 1) buffer frames c
      else (.error (.ofFrame "frame request failed" e), c)
termination_by (left, retries - failures)

/-- Pulls `count` frames, or gives nothing where that crashes. The buffer is empty here until the first
frame comes; what it holds before does not show. -/
def run [Channel σ] (count retries : Nat) (c : Client σ) :
    Option (Except Failure (List FrameSummary)) × Client σ :=
  match c.known with
  | (.error e, c) => (some (.error (.ofFrame "metadata request failed" e)), c)
  | (.ok m, c) =>
    if bufferLimit < m.size then (none, c)
    else
      let (r, c) := pull retries count 0 [] [] c
      (some r, c)

end FrameFeed.Grab
