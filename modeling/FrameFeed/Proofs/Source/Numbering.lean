import FrameFeed.Proofs.Source.Copying
/-!
# Frames by their number

A source of a pattern paints all its frames over one buffer and counts them. What it has come to is told by the
calls that were made: `made` counts the frames that were fetched since the last reset, and the source stands at
that number (`Stands`). So it is the stream of its pattern, each frame rendered as if from nothing, up to its
limit (`streams_pattern`).
-/
namespace FrameFeed

/-- The call got the next frame. -/
def Told.fetches : Told → Bool
  | next (.returned (.ok ())) => true
  | _ => false

namespace PatternSource

/-- How many frames were fetched since the start or the last reset. -/
def made (log : List Told) : Nat :=
  (log.reverse.takeWhile fun t => !t.resets (· = "reset")).countP Told.fetches

theorem made_concat (log : List Told) (t : Told) : made (log ++ [t]) =
    if t.resets (· = "reset") then 0 else made log + if t.fetches then 1 else 0 := by
  rw [made, List.reverse_append, List.reverse_singleton, List.singleton_append, List.takeWhile_cons]
  cases t.resets (· = "reset") with
  | true => rfl
  | false => exact List.countP_cons

/-- A source of a pattern after these calls. What its buffer holds matters only while it is shown. -/
structure Stands (m : Metadata) (p : Pattern) (limit : Option Nat) (log : List Told) (s : PatternSource) :
    Prop where
  metadata : s.metadata = m
  pattern : s.pattern = p
  limit : s.limit = limit
  produced : s.produced = made log
  painted : s.hasFrame = true → s.buffer = p.render (s.produced - 1) m

section
variable {m : Metadata} {p : Pattern} {limit : Option Nat} {log : List Told} {s : PatternSource}

/-- A call that neither fetches a frame nor resets the source. -/
theorem Stands.still (h : Stands m p limit log s) {t : Told} (hr : t.resets (· = "reset") = false)
    (hf : t.fetches = false) : Stands m p limit (log ++ [t]) s := by
  refine { h with produced := ?_ }
  rw [made_concat, hr, hf]
  exact h.produced

theorem Stands.run (h : Stands m p limit log s) (k : SourceCall) :
    Stands m p limit (log ++ [(k.run s).1]) (k.run s).2 := by
  cases k with
  | metadata | current | bytes | copyInto => exact h.still rfl rfl
  | next =>
    show Stands m p limit (log ++ [.next (.returned s.next.1)]) s.next.2
    rcases s.next_cases with hover | hframe
    · rw [hover]
      refine ⟨h.metadata, h.pattern, h.limit, ?_, fun hframe => absurd hframe Bool.false_ne_true⟩
      rw [made_concat]
      exact h.produced
    · rw [hframe]
      refine ⟨h.metadata, h.pattern, h.limit, ?_, fun _ => ?_⟩
      · rw [made_concat]
        exact congrArg (· + 1) h.produced
      · rw [← h.metadata, ← h.pattern]
        rfl
  | execute a =>
    show Stands m p limit (log ++ [.executed a (.returned (s.execute a).1)]) (s.execute a).2
    rw [execute]
    by_cases ha : a = "reset"
    · rw [if_pos ha]
      refine ⟨h.metadata, h.pattern, h.limit, ?_, fun hframe => absurd hframe Bool.false_ne_true⟩
      rw [made_concat, Told.resets, decide_eq_true ha]
      rfl
    · rw [if_neg ha]
      exact h.still rfl rfl

theorem Stands.runAll (h : Stands m p limit log s) (ks : List SourceCall) :
    Stands m p limit (log ++ (SourceCall.runAll ks s).1) (SourceCall.runAll ks s).2 := by
  induction ks generalizing log s with
  | nil =>
    rw [SourceCall.runAll, List.append_nil]
    exact h
  | cons k ks ih =>
    have hrest := ih (h.run k)
    rw [List.append_assoc] at hrest
    exact hrest

/-! ## The end of the stream -/

/-- As many frames were fetched as there are. -/
def Over (s : PatternSource) : Prop := s.limit.any (· ≤ s.produced) = true

theorem over_iff : s.Over ↔ ¬∀ n ∈ s.limit, s.produced < n := by
  rw [Over]
  cases s.limit with
  | none => simp
  | some n => simp

theorem next_eq_ok_iff : (FrameSource.next s).1 = .ok () ↔ ∀ n ∈ s.limit, s.produced < n := by
  show Call.returned s.next.1 = .returned (.ok ()) ↔ _
  cases hover : s.limit.any (· ≤ s.produced) with
  | true =>
    have hnone : ¬∀ n ∈ s.limit, s.produced < n := over_iff.1 hover
    rw [next_of_over hover]
    exact ⟨nofun, fun h => absurd h hnone⟩
  | false =>
    have hmore : ∀ n ∈ s.limit, s.produced < n :=
      Decidable.not_not.1 fun h => Bool.false_ne_true (hover.symm.trans (over_iff.2 h))
    rw [next_of_more hover]
    exact ⟨fun _ => hmore, fun _ => rfl⟩

/-- A source that is over says so whenever it is called for a frame, and stays over until it is reset. -/
theorem Over.run (h : s.Over) {k : SourceCall} (hk : k ≠ .execute "reset") :
    (k.run s).2.Over ∧ ∀ r, (k.run s).1 = .next r → r = .error .endOfStream := by
  by_cases hn : k = .next
  · subst hn
    show s.next.2.Over ∧ ∀ r, Told.next (.returned s.next.1) = .next r → r = .error .endOfStream
    rw [next_of_over h]
    exact ⟨h, fun r hr => (Told.next.inj hr).symm⟩
  · rw [run_of_spares ⟨hn, hk⟩]
    refine ⟨h, fun r hr => ?_⟩
    cases k with
    | next => exact absurd rfl hn
    | _ => cases hr

theorem Over.runAll (h : s.Over) {ks : List SourceCall} (hks : .execute "reset" ∉ ks) {r : Call Unit}
    (hr : .next r ∈ (SourceCall.runAll ks s).1) : r = .error .endOfStream := by
  induction ks generalizing s with
  | nil => cases hr
  | cons k ks ih =>
    rw [List.mem_cons, not_or] at hks
    obtain ⟨hover, hnext⟩ := h.run (Ne.symm hks.1)
    rcases List.mem_cons.1 hr with hfirst | hlater
    · exact hnext r hfirst.symm
    · exact ih hover hks.2 hlater

end

/-! ## Any calls -/

/-- **A source of a pattern is the stream of the pattern.** Whatever calls are made, it has produced as many
frames as were fetched since the last reset. There is a next one if no limit was set or it is not yet reached;
otherwise every call for one is told of the end of the stream until the source is reset. While there is a frame,
it is the last that was produced, rendered as from nothing, whatever the buffer held before. Every action but
the reset is refused and changes nothing. -/
theorem streams_pattern (m : Metadata) (p : Pattern) (limit : Option Nat) (ks : List SourceCall) :
    let source : PatternSource := { metadata := m, pattern := p, limit }
    let log := (SourceCall.runAll ks source).1
    let s := (SourceCall.runAll ks source).2
    s.produced = made log ∧
    ((FrameSource.next s).1 = .ok () ↔ ∀ n ∈ limit, s.produced < n) ∧
    ((¬∀ n ∈ limit, s.produced < n) → ∀ ks', .execute "reset" ∉ ks' →
      ∀ r, .next r ∈ (SourceCall.runAll ks' s).1 → r = .error .endOfStream) ∧
    (Fetched (· = "reset") log → FrameSource.current s = .ok ⟨m, p.render (s.produced - 1) m⟩) ∧
    (¬Fetched (· = "reset") log → FrameSource.current s = .error .noFrame) ∧
    ∀ a, (FrameSource.execute a s).1 = (if a = "reset" then .ok () else .error (.unsupportedAction a)) ∧
      (a ≠ "reset" → (FrameSource.execute a s).2 = s) := by
  intro source log s
  have hnew : Stands m p limit [] source := ⟨rfl, rfl, rfl, rfl, nofun⟩
  have hstands : Stands m p limit log s := hnew.runAll ks
  have htracks : Tracks (· = "reset") log s.frame :=
    tracks_runAll frame (fun _ => True) (fun k s _ => ⟨s.turns k, trivial⟩) (s := source) .start trivial ks
  have hfetched : s.hasFrame = true ↔ Fetched (· = "reset") log := by
    rw [← htracks.fetched, frame]
    cases s.hasFrame <;> simp
  have hcurrent : FrameSource.current s = .returned s.current := rfl
  rw [hcurrent, current, ← hfetched, ← hstands.limit]
  refine ⟨hstands.produced, next_eq_ok_iff, ?_, ?_, ?_, ?_⟩
  · intro hover ks' hks' r hr
    exact (over_iff.2 hover).runAll hks' hr
  · intro hframe
    rw [if_pos hframe, hstands.painted hframe, hstands.metadata]
    rfl
  · intro hframe
    rw [if_neg hframe]
    rfl
  · intro a
    show Call.returned (s.execute a).1 = _ ∧ (a ≠ "reset" → (s.execute a).2 = s)
    rw [execute]
    by_cases ha : a = "reset"
    · rw [if_pos ha, if_pos ha]
      exact ⟨rfl, fun hne => absurd ha hne⟩
    · rw [if_neg ha, if_neg ha]
      exact ⟨rfl, fun _ => rfl⟩

end PatternSource
end FrameFeed
