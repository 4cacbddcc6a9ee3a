import FrameFeed.Proofs.Source.Keeping
/-!
# Copies into buffers that were too small

A copy that fails for the size of the buffer leaves the buffer as it is and tells its size and the metadata of
the frame. The frame may be larger than its metadata say, so whether a second copy succeeds is not always to
be told from them: `Fixable` is what it takes, for what a caller takes the frame to need. It always needs the
larger of its bytes and of what is described (`fixable_needed`), and what is described is enough exactly if
the frame is not larger (`fixable_described_iff`). Frames of patterns and of clients never are; those of a
source fed through a slot are what a producer makes them (`short_copies_fixed`).
-/
namespace FrameFeed

namespace View

/-- The bytes that the metadata describe. -/
def described (v : View) : Nat := v.metadata.size

/-- The bytes that a buffer has to hold. -/
def needed (v : View) : Nat := max v.length v.metadata.size

end View

/-! ## One copy -/

section
variable {v : View} {buffer after : Bytes} {m : Metadata} {n : Nat} {frame : Except FrameError View}

theorem copyInto_of_fits (h : v.needed ≤ buffer.length) :
    copyInto (.ok v) buffer = (.ok v, v.data ++ buffer.drop v.length) :=
  if_neg (Nat.not_lt.2 h)

theorem copyInto_of_small (h : buffer.length < v.needed) :
    copyInto (.ok v) buffer = (.error (.insufficientCapacity v.metadata buffer.length), buffer) :=
  if_pos h

/-- A copy says that the buffer is too small if it is, or if the source said so of itself. -/
theorem copyInto_eq_small (h : copyInto frame buffer = (.error (.insufficientCapacity m n), after)) :
    frame = .error (.insufficientCapacity m n) ∨
      ∃ v, frame = .ok v ∧ v.metadata = m ∧ n = buffer.length ∧ buffer.length < v.needed ∧ after = buffer := by
  cases frame with
  | error e =>
    obtain ⟨he, -⟩ := Prod.mk.inj h
    cases he
    exact .inl rfl
  | ok v =>
    rcases Nat.lt_or_ge buffer.length v.needed with hsmall | hfits
    · rw [copyInto_of_small hsmall] at h
      cases h
      exact .inr ⟨v, rfl, rfl, rfl, hsmall, rfl⟩
    · rw [copyInto_of_fits hfits] at h
      cases h

end

/-! ## Sources in general -/

section
variable {σ : Type} [FrameSource σ] {s : σ}

theorem run_copyInto {frame : Except FrameError View} (h : FrameSource.current s = .returned frame)
    (buffer : Bytes) : ((SourceCall.copyInto buffer).run s).1 =
      .copied (.returned (copyInto frame buffer).1) (copyInto frame buffer).2 := by
  rw [SourceCall.run, h]

/-- A copy that fails for the size of its buffer can be made again: the buffer is as it was, its size is told
and is less than what the frame takes, and after anything that may happen `meanwhile` a copy into a buffer
of at least that size is the frame. -/
def Fixable (takes : View → Nat) (meanwhile : σ → σ → Prop) (s : σ) : Prop :=
  ∀ buffer m n after, ((SourceCall.copyInto buffer).run s).1 =
      .copied (.error (.insufficientCapacity m n)) after →
    after = buffer ∧ n = buffer.length ∧ ∃ v, FrameSource.current s = .ok v ∧ v.metadata = m ∧ n < takes v ∧
      ∀ s', meanwhile s s' → ∀ buffer', takes v ≤ buffer'.length →
        ((SourceCall.copyInto buffer').run s').1 = .copied (.ok v) (v.data ++ buffer'.drop v.length)

/-- The source shows the same frame still. -/
def SameView (s s' : σ) : Prop := FrameSource.current s' = FrameSource.current s

/-- Whatever a source says of its frame, it is not that a buffer is too small. -/
def Plain (s : σ) : Prop := ∀ m n, FrameSource.current s ≠ .error (.insufficientCapacity m n)

theorem Shows.plain {held : Option Bytes} (h : Shows s held) : Plain s := by
  intro m n hc
  cases h with
  | frame hcurrent => rw [hcurrent] at hc; cases hc
  | nothing hcurrent => rw [hcurrent] at hc; cases hc

variable {meanwhile : σ → σ → Prop}

/-- A buffer that holds the frame and what its metadata describe is always enough. -/
theorem fixable_needed (hs : Plain s) (hsame : ∀ s', meanwhile s s' → SameView s s') :
    Fixable View.needed meanwhile s := by
  intro buffer m n after h
  cases hc : FrameSource.current s with
  | crashed =>
    rw [SourceCall.run, hc] at h
    cases h
  | returned frame =>
    rw [run_copyInto hc, Told.copied.injEq] at h
    obtain ⟨hr, hafter⟩ := h
    rcases copyInto_eq_small (Prod.ext (Call.returned.inj hr) hafter) with
      rfl | ⟨v, rfl, hm, hn, hsmall, hbuffer⟩
    · exact absurd hc (hs m n)
    · refine ⟨hbuffer, hn, v, rfl, hm, hn ▸ hsmall, ?_⟩
      intro s' hs' buffer' hfits
      rw [run_copyInto ((hsame s' hs').trans hc), copyInto_of_fits hfits]
      rfl

/-- What the metadata describe is enough exactly if the frame is not larger than that. -/
theorem fixable_described_iff (hs : Plain s) (hsame : ∀ s', meanwhile s s' → SameView s s') :
    Fixable View.described meanwhile s ↔
      ∀ v, FrameSource.current s = .ok v → v.length ≤ v.metadata.size := by
  constructor
  · intro h v hv
    refine Nat.le_of_not_lt fun hlarge => ?_
    -- a buffer of the size described is refused
    let buffer : Bytes := List.replicate v.metadata.size 0
    have hlength : buffer.length = v.metadata.size := List.length_replicate
    have hsmall : buffer.length < v.needed := by
      rw [hlength, View.needed]
      omega
    have hrefused := run_copyInto hv buffer
    rw [copyInto_of_small hsmall] at hrefused
    obtain ⟨-, -, v', hv', -, hless, -⟩ := h buffer v.metadata buffer.length buffer hrefused
    rw [hv] at hv'
    cases hv'
    rw [hlength, View.described] at hless
    omega
  · intro h buffer m n after hcopy
    obtain ⟨hafter, hn, v, hv, hm, hless, hagain⟩ := fixable_needed hs hsame buffer m n after hcopy
    have hneeded : v.needed = v.described := Nat.max_eq_right (h v hv)
    rw [hneeded] at hless hagain
    exact ⟨hafter, hn, v, hv, hm, hless, hagain⟩

end

/-! ## Sources of patterns -/

namespace PatternSource

/-- The frame is of the size that the metadata describe. -/
def Sized (s : PatternSource) : Prop := ∀ data, s.frame = some data → data.length = s.metadata.size

theorem sized_run {s : PatternSource} (h : s.Sized) (k : SourceCall) : (k.run s).2.Sized := by
  by_cases hk : k.looks = true
  · rw [run_of_looks hk]
    exact h
  cases k with
  | metadata => exact h
  | next =>
    show s.next.2.Sized
    rcases s.next_cases with hover | hframe
    · rw [hover]
      exact nofun
    · rw [hframe]
      intro data hdata
      cases hdata
      exact s.pattern.length_render _ _
  | execute a =>
    show (s.execute a).2.Sized
    unfold execute
    split
    · exact nofun
    · exact h
  | current | bytes | copyInto => exact absurd rfl hk

/-- Calls that leave the frame: neither for the next one, nor a reset. -/
def Spares (k : SourceCall) : Prop := k ≠ .next ∧ k ≠ .execute "reset"

theorem run_of_spares {k : SourceCall} (hk : Spares k) (s : PatternSource) : (k.run s).2 = s := by
  by_cases hlook : k.looks = true
  · exact run_of_looks hlook s
  cases k with
  | metadata => rfl
  | next => exact absurd rfl hk.1
  | execute a =>
    have ha : a ≠ "reset" := by
      rintro rfl
      exact hk.2 rfl
    show (s.execute a).2 = s
    rw [execute, if_neg ha]
  | current | bytes | copyInto => exact absurd rfl hlook

theorem sized_runAll {s : PatternSource} (h : s.Sized) (ks : List SourceCall) :
    (SourceCall.runAll ks s).2.Sized := by
  induction ks generalizing s with
  | nil => exact h
  | cons k ks ih => exact ih (sized_run h k)

/-- Only calls that leave the frame. -/
def Meanwhile (s s' : PatternSource) : Prop :=
  ∃ ks : List SourceCall, (∀ k ∈ ks, Spares k) ∧ s' = (SourceCall.runAll ks s).2

theorem Meanwhile.sameView {s s' : PatternSource} (hm : Meanwhile s s') : SameView s s' := by
  obtain ⟨ks, hks, rfl⟩ := hm
  induction ks with
  | nil => rfl
  | cons k ks ih =>
    obtain ⟨hk, hks⟩ := List.forall_mem_cons.1 hks
    show SameView s (SourceCall.runAll ks (k.run s).2).2
    rw [run_of_spares hk]
    exact ih hks

theorem Sized.length_le {s : PatternSource} (h : s.Sized) {v : View} (hv : FrameSource.current s = .ok v) :
    v.length ≤ v.metadata.size := by
  have hc : s.current = .ok v := Call.returned.inj hv
  rw [current] at hc
  cases hf : s.hasFrame with
  | false => rw [hf] at hc; cases hc
  | true =>
    rw [hf] at hc
    cases hc
    exact Nat.le_of_eq (h s.buffer (by rw [frame, hf]; rfl))

end PatternSource

/-! ## Sources fed through a slot -/

namespace HandoffSource

/-- What may happen before the next frame is called for: other calls, producers at work, and another handler
of actions. -/
inductive Meanwhile : HandoffSource → HandoffSource → Prop where
  | none (h : HandoffSource) : Meanwhile h h
  | produce {h h' : HandoffSource} {rs : List Slot.ActResult} {slot : Slot} (hm : Meanwhile h h')
    (hr : Slot.Runs .idle h'.slot rs [] .idle slot) : Meanwhile h { h' with slot }
  | call {h h' : HandoffSource} {k : SourceCall} (hm : Meanwhile h h') (hk : k ≠ .next) :
    Meanwhile h (k.run h').2
  | handler {h h' : HandoffSource} (hm : Meanwhile h h') (actions : Actions) : Meanwhile h { h' with actions }

theorem Meanwhile.frame_eq {h h' : HandoffSource} (hm : Meanwhile h h') : h'.frame = h.frame := by
  induction hm with
  | none => rfl
  | produce _ _ ih => exact ih
  | call _ hk ih => rw [(turns_of_ne_next hk _).2, ih]
  | handler _ _ ih => exact ih

theorem sameView_of_frame {h h' : HandoffSource} (hf : h'.frame = h.frame) : SameView h h' := by
  show Call.returned h'.current = Call.returned h.current
  rw [current, current, hf]

end HandoffSource

/-! ## Clients -/

namespace Client

variable {σ : Type} [Channel σ] {c : Client σ}

/-- A frame has the size that the metadata describe. -/
def Whole (c : Client σ) : Prop :=
  ∀ data, c.frame = some data → ∃ m, c.metadata = some m ∧ data.length = m.size

/-- Only metadata that are asked for anew may say otherwise. -/
theorem whole_run (h : c.Whole) {k : Errand} (hk : k ≠ .refresh) : (c.run k).2.Whole := by
  intro data hdata
  by_cases hn : k = .next
  · subst hn
    rcases @next_cases σ _ c with ⟨-, data', m, hf, hm, hsize⟩ | ⟨-, hf⟩
    · cases hdata.symm.trans hf
      exact ⟨m, hm, hsize⟩
    · cases hdata.symm.trans hf
  · rw [frame_run hn] at hdata
    obtain ⟨m, hm, hsize⟩ := h data hdata
    exact ⟨m, metadata_run hn hk hm, hsize⟩

omit [Channel σ] in
theorem Whole.described (h : c.Whole) : c.Described := by
  intro hsome
  obtain ⟨data, hdata⟩ := Option.isSome_iff_exists.1 hsome
  obtain ⟨m, hm, -⟩ := h data hdata
  rw [hm]
  rfl

theorem whole_runAll (h : c.Whole) {ks : List Errand} (hks : .refresh ∉ ks) : (runAll ks c).Whole := by
  induction ks generalizing c with
  | nil => exact h
  | cons k ks ih =>
    rw [List.mem_cons, not_or] at hks
    exact ih (whole_run h (Ne.symm hks.1)) hks.2

/-- Neither the next frame is called for nor the metadata are asked for anew. -/
def Meanwhile (c c' : Client σ) : Prop :=
  ∃ ks : List Errand, .next ∉ ks ∧ .refresh ∉ ks ∧ c' = runAll ks c

theorem sameView_run (h : c.Whole) {k : Errand} (hk : k ≠ .next) (hk' : k ≠ .refresh) :
    SameView c (c.run k).2 := by
  show Call.returned (c.run k).2.current = Call.returned c.current
  rw [current, current, frame_run hk]
  cases hf : c.frame with
  | none => rfl
  | some data =>
    obtain ⟨m, hm, -⟩ := h data hf
    rw [hm, metadata_run hk hk' hm]

theorem Meanwhile.sameView {c' : Client σ} (h : c.Whole) (hm : Meanwhile c c') : SameView c c' := by
  obtain ⟨ks, hnext, hrefresh, rfl⟩ := hm
  induction ks generalizing c with
  | nil => rfl
  | cons k ks ih =>
    rw [List.mem_cons, not_or] at hnext hrefresh
    have hlater := ih (whole_run h (Ne.symm hrefresh.1)) hnext.2 hrefresh.2
    exact Eq.trans hlater (sameView_run h (Ne.symm hnext.1) (Ne.symm hrefresh.1))

/-- A frame of the size described is no larger than that. -/
theorem Whole.length_le (h : c.Whole) {v : View} (hv : FrameSource.current c = .ok v) :
    v.length ≤ v.metadata.size := by
  obtain ⟨hdata, hm⟩ := current_eq_ok.1 (Call.returned.inj hv)
  obtain ⟨m, hm', hsize⟩ := h v.data hdata
  cases hm.symm.trans hm'
  exact Nat.le_of_eq hsize

end Client

/-! ## All of them -/

/-- **A short buffer can be fixed from the error, unless the frame is larger than described.** A copy that
fails for the size of the buffer leaves the buffer as it is, tells its size, which is less than what the frame
takes, and the metadata of the frame; until the next frame is called for, any copy into a buffer that holds
what the frame takes succeeds and is the frame. It takes no more than the metadata describe, for every source
of patterns, whose frame is not taken away by a reset, and for every client, whose metadata are not asked for
anew. For a source fed through a slot, and for any source that does not itself say that a buffer is too small,
the larger of the frame and what its metadata describe is always enough, and what they describe is enough
exactly if the frame is no larger. -/
theorem short_copies_fixed (m : Metadata) (p : Pattern) (limit : Option Nat) (ks : List SourceCall)
    {σ : Type} [Channel σ] (endpoint : Endpoint) (channel : σ) (es : List Client.Errand) (h : HandoffSource)
    {τ : Type} [FrameSource τ] (s : τ) :
    let patterns := (SourceCall.runAll ks ({ metadata := m, pattern := p, limit } : PatternSource)).2
    let client := Client.runAll es ({ endpoint, channel } : Client σ)
    Fixable View.described PatternSource.Meanwhile patterns ∧
    (Plain client ∧ (.refresh ∉ es → Fixable View.described Client.Meanwhile client)) ∧
    (Fixable View.needed HandoffSource.Meanwhile h ∧
      (Fixable View.described HandoffSource.Meanwhile h ↔
        ∀ f, h.frame = some f → f.data.length ≤ f.metadata.size)) ∧
    (Plain s → Fixable View.needed SameView s ∧
      (Fixable View.described SameView s ↔
        ∀ v, FrameSource.current s = .ok v → v.length ≤ v.metadata.size)) := by
  intro patterns client
  refine ⟨?_, ⟨?_, fun hes => ?_⟩, ?_, fun hs => ?_⟩
  · have hnew : ({ metadata := m, pattern := p, limit } : PatternSource).Sized := nofun
    have hsized : patterns.Sized := PatternSource.sized_runAll hnew ks
    exact (fixable_described_iff patterns.shows.plain fun _ => PatternSource.Meanwhile.sameView).2
      fun v => hsized.length_le
  · have hdescribed : client.Described := Client.isSome_metadata_of_frame rfl es
    exact hdescribed.shows.plain
  · have hnew : ({ endpoint, channel } : Client σ).Whole := nofun
    have hwhole : client.Whole := Client.whole_runAll hnew hes
    exact (fixable_described_iff hwhole.described.shows.plain fun _ => Client.Meanwhile.sameView hwhole).2
      fun v => hwhole.length_le
  · have hsame : ∀ h', HandoffSource.Meanwhile h h' → SameView h h' :=
      fun h' hm => HandoffSource.sameView_of_frame hm.frame_eq
    refine ⟨fixable_needed h.shows.plain hsame, (fixable_described_iff h.shows.plain hsame).trans ?_⟩
    constructor
    · intro hle f hf
      exact hle _ (HandoffSource.current_eq_ok.2 ⟨f, hf, rfl⟩)
    · intro hle v hv
      obtain ⟨f, hf, rfl⟩ := HandoffSource.current_eq_ok.1 hv
      exact hle f hf
  · exact ⟨fixable_needed hs fun _ h => h, fixable_described_iff hs fun _ h => h⟩

/-- A frame of two bytes that is described as one byte. -/
def overfed : HandoffSource :=
  let m : Metadata := ⟨.uint8, 1, 1, .grayscale, .planar, "topLeft"⟩
  (HandoffSource.next (fun _ => [.publish 1 m [1, 2]]) { metadata := m }).2.2

/-- A buffer of one byte is refused, though it holds what is described, so another of that size is no help. -/
theorem copy_overfed :
    let m : Metadata := ⟨.uint8, 1, 1, .grayscale, .planar, "topLeft"⟩
    (∃ fs, HandoffSource.Course m [.next (.ok ())] fs overfed) ∧ m.size = 1 ∧
      ((SourceCall.copyInto [0]).run overfed).1 = .copied (.error (.insufficientCapacity m 1)) [0] ∧
      ¬Fixable View.described HandoffSource.Meanwhile overfed := by
  intro m
  have hnew : HandoffSource.Course m [] [] { metadata := m } := .new {} _
  have hcourse : HandoffSource.Course m [.next (.ok ())] [⟨m, [1, 2], 1⟩] overfed :=
    hnew.pull fun _ => [.publish 1 m [1, 2]]
  have hsize : m.size = 1 := by decide
  have hrefused : ((SourceCall.copyInto [0]).run overfed).1 =
      .copied (.error (.insufficientCapacity m 1)) [0] := rfl
  refine ⟨⟨_, hcourse⟩, hsize, hrefused, ?_⟩
  intro hfixable
  obtain ⟨-, -, v, -, hm, hless, -⟩ := hfixable [0] m 1 [0] hrefused
  rw [View.described, hm, hsize] at hless
  exact Nat.lt_irrefl 1 hless

end FrameFeed
