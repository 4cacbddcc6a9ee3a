import FrameFeed.Proofs.Source.Copying
/-!
# Copies that are whole or nothing

A copy of the current frame into a buffer is all of the frame, at the front, or it leaves every byte of the buffer
as it is, whatever the sizes of the buffer, the frame and what its metadata describe (`WholeCopy`). All sources
copy in this way that do not crash when they show their frame (`copiesWhole_iff`), and a box around a source
makes no difference to any call (`run_boxed`).
-/
namespace FrameFeed

/-- What a copy comes to, given what the source shows, and what the buffer holds before and `after`. -/
structure WholeCopy (frame r : Except FrameError View) (buffer after : Bytes) : Prop where
  length_eq : after.length = buffer.length
  untouched : ∀ e, r = .error e → after = buffer
  /-- The view is the frame's, and its bytes are those at the front of the buffer. -/
  copied : ∀ v, r = .ok v → frame = .ok v ∧ after.take v.length = v.data ∧
    after.drop v.length = buffer.drop v.length
  fits : (∃ v, r = .ok v) ↔ ∃ v, frame = .ok v ∧ v.metadata.size ≤ buffer.length ∧ v.length ≤ buffer.length
  noFrame : r = .error .noFrame ↔ frame = .error .noFrame

theorem wholeCopy_copyInto (frame : Except FrameError View) (buffer : Bytes) :
    WholeCopy frame (copyInto frame buffer).1 buffer (copyInto frame buffer).2 := by
  cases frame with
  | error e =>
    refine ⟨rfl, fun _ _ => rfl, ?_, by simp [copyInto], Iff.rfl⟩
    intro v hv
    cases hv
  | ok v =>
    have hshown : (.ok v : Except FrameError View) ≠ .error .noFrame := by
      intro h
      cases h
    rcases Nat.lt_or_ge buffer.length v.needed with hsmall | hfits
    · rw [copyInto_of_small hsmall]
      refine ⟨rfl, fun _ _ => rfl, ?_, ⟨?_, ?_⟩, ⟨?_, fun h => absurd h hshown⟩⟩
      · intro v' hv'
        cases hv'
      · rintro ⟨v', hv'⟩
        cases hv'
      · rintro ⟨v', hv', hsize, hlength⟩
        cases hv'
        exact absurd (Nat.max_le.2 ⟨hlength, hsize⟩) (Nat.not_le.2 hsmall)
      · intro h
        cases h
    · rw [copyInto_of_fits hfits]
      obtain ⟨hlength, hsize⟩ := Nat.max_le.1 hfits
      have hwhole : (v.data ++ buffer.drop v.length).length = buffer.length := by
        rw [List.length_append, List.length_drop]
        exact Nat.add_sub_cancel' hlength
      refine ⟨hwhole, ?_, ?_, ⟨fun _ => ⟨v, rfl, hsize, hlength⟩, fun _ => ⟨v, rfl⟩⟩, Iff.rfl⟩
      · intro e he
        cases he
      · intro v' hv'
        cases hv'
        exact ⟨rfl, List.take_left' rfl, List.drop_left' rfl⟩

section
variable {σ : Type} [FrameSource σ]

/-- A copy into any buffer returns, leaves the source as it is, and is whole or nothing. -/
def CopiesWhole (s : σ) : Prop :=
  ∀ buffer, ∃ frame r after, FrameSource.current s = .returned frame ∧
    (SourceCall.copyInto buffer).run s = (.copied (.returned r) after, s) ∧ WholeCopy frame r buffer after

theorem copiesWhole_iff (s : σ) : CopiesWhole s ↔ ∃ frame, FrameSource.current s = .returned frame := by
  constructor
  · intro h
    obtain ⟨frame, -, -, hframe, -⟩ := h []
    exact ⟨frame, hframe⟩
  · rintro ⟨frame, hframe⟩ buffer
    refine ⟨frame, _, _, hframe, ?_, wholeCopy_copyInto frame buffer⟩
    rw [SourceCall.run, hframe]

/-- A call to a source in a box is the call to the source. -/
theorem run_boxed (k : SourceCall) (s : σ) : k.run (Boxed.mk s) = ((k.run s).1, ⟨(k.run s).2⟩) := by
  cases k with
  | metadata | next | current | bytes | execute => rfl
  | copyInto buffer =>
    have hshown : FrameSource.current (Boxed.mk s) = FrameSource.current s := rfl
    rw [SourceCall.run, SourceCall.run, hshown]
    cases FrameSource.current s <;> rfl

theorem copiesWhole_boxed (s : σ) : CopiesWhole (Boxed.mk s) ↔ CopiesWhole s :=
  (copiesWhole_iff (Boxed.mk s)).trans (copiesWhole_iff s).symm

end

/-- **Copies are whole or nothing.** For every source of patterns, source fed through a slot and client, in any
state, and for every buffer: a copy that fails leaves every byte of the buffer as it is. One that succeeds
gives the view of the current frame; its bytes stand at the front of the buffer, and those behind them are as
they were. It succeeds exactly if there is a frame and the buffer holds both the frame and what its metadata
describe, and it says that there is no frame exactly if the source does. The same holds of every source that
does not crash when it shows its frame, and of a source in a box exactly if it holds of the source. -/
theorem copies_whole_or_nothing :
    (∀ s : PatternSource, CopiesWhole s) ∧ (∀ h : HandoffSource, CopiesWhole h) ∧
    (∀ (σ : Type) [Channel σ] (c : Client σ), CopiesWhole c) ∧
    ∀ (σ : Type) [FrameSource σ] (s : σ),
      (CopiesWhole s ↔ ∃ frame, FrameSource.current s = .returned frame) ∧
        (CopiesWhole (Boxed.mk s) ↔ CopiesWhole s) :=
  ⟨fun s => (copiesWhole_iff s).2 ⟨s.current, rfl⟩, fun h => (copiesWhole_iff h).2 ⟨h.current, rfl⟩,
    fun _ _ c => (copiesWhole_iff c).2 ⟨c.current, rfl⟩, fun _ _ s => ⟨copiesWhole_iff s, copiesWhole_boxed s⟩⟩

end FrameFeed
