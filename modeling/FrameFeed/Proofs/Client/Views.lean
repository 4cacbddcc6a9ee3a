import FrameFeed.Proofs.Client.Plan
import Mathlib.Data.List.Induction
/-!
# Views of a client

The bytes of a client's frame and the metadata that describe them are kept apart. A call for the next frame
puts them together and looks at their sizes; after it only `refresh` replaces one without the other. So a
view is the one that was fetched last, but for the metadata (`current_fetched`), and it is complete unless
metadata of another size came since (`current_of_refresh_of_other_size`).
-/
namespace FrameFeed.Client

variable {σ : Type}

theorem current_eq_ok {c : Client σ} {v : View} :
    c.current = .ok v ↔ c.frame = some v.data ∧ c.metadata = some v.metadata := by
  obtain ⟨m, data⟩ := v
  unfold current
  cases c.frame <;> cases c.metadata <;> simp [and_comm]

variable [Channel σ]

/-! ## What calls do to the frame and the metadata -/

section
variable {c : Client σ}

theorem metadata_of_refresh_ok {m : Metadata} (h : c.refresh.1 = .ok m) : c.refresh.2.metadata = some m := by
  rw [refresh_eq] at h ⊢
  cases hd : described (c.request .metadata).1 with
  | error e => simp [hd] at h
  | ok m' =>
    simp only [hd] at h ⊢
    cases h; rfl

theorem metadata_of_known_ok {m : Metadata} (h : c.known.1 = .ok m) : c.known.2.metadata = some m := by
  unfold known at h ⊢
  split at h
  · rename_i hm
    cases h; exact hm
  · exact metadata_of_refresh_ok h

theorem isSome_metadata_refresh (h : c.metadata.isSome) : c.refresh.2.metadata.isSome := by
  rw [refresh_eq]
  split
  · rw [(request_keep c .metadata).1]; exact h
  · rfl

/-- Metadata that are known are not asked for. -/
theorem known_of_some {m : Metadata} (h : c.metadata = some m) : c.known = (.ok m, c) := by
  unfold known
  rw [h]

/-- A call for the next frame leaves a frame of the size that the metadata say, or none. -/
theorem next_cases : (c.next.1 = .ok () ∧ ∃ data m, c.next.2.frame = some data ∧
      c.next.2.metadata = some m ∧ data.length = m.size) ∨
    (∃ e, c.next.1 = .error e) ∧ c.next.2.frame = none := by
  have hframe : ({ c with frame := none } : Client σ).known.2.frame = none := frame_known _
  have hmetadata := fun m => @metadata_of_known_ok σ _ { c with frame := none } m
  unfold next
  generalize ({ c with frame := none } : Client σ).known = p at hframe hmetadata ⊢
  obtain ⟨r, c₁⟩ := p
  cases r with
  | error e => exact .inr ⟨⟨e, rfl⟩, hframe⟩
  | ok expected =>
    have hexpected : c₁.metadata = some expected := hmetadata expected rfl
    obtain ⟨hm, hf⟩ := request_keep c₁ .frame
    dsimp only at hframe ⊢
    rw [hframe] at hf
    rw [hexpected] at hm
    generalize c₁.request .frame = p at hm hf ⊢
    obtain ⟨a, c₂⟩ := p
    rcases a with e | _ | data
    · exact .inr ⟨⟨e, rfl⟩, hf⟩
    · exact .inr ⟨⟨_, rfl⟩, hf⟩
    · dsimp only at hm hf ⊢
      split
      · rename_i hsize
        exact .inl ⟨rfl, data, expected, rfl, hm, hsize⟩
      · have hf' : c₂.refresh.2.frame = none := (frame_refresh c₂).trans hf
        have hm' := fun m => @metadata_of_refresh_ok σ _ c₂ m
        generalize c₂.refresh = p at hf' hm' ⊢
        obtain ⟨r, c₃⟩ := p
        cases r with
        | error e => exact .inr ⟨⟨e, rfl⟩, hf'⟩
        | ok m =>
          dsimp only
          split
          · rename_i hsize
            exact .inl ⟨rfl, data, m, rfl, hm' m rfl, hsize⟩
          · exact .inr ⟨⟨_, rfl⟩, hf'⟩

/-- No other call touches the frame. -/
theorem frame_run {k : Errand} (hk : k ≠ .next) : (c.run k).2.frame = c.frame := by
  cases k with
  | metadata => exact frame_known c
  | refresh => exact frame_refresh c
  | next => exact absurd rfl hk
  | execute a => rw [run_eq_carryOut]; exact rfl
  | send body => rw [run_eq_carryOut]; exact rfl
  | request q => rw [run_eq_carryOut]; exact rfl

/-- Metadata that are known stay, but for the next frame and for those that are asked for anew. -/
theorem metadata_run {k : Errand} {m : Metadata} (hk : k ≠ .next) (hk' : k ≠ .refresh)
    (h : c.metadata = some m) : (c.run k).2.metadata = some m := by
  cases k with
  | metadata => simp only [run, known_of_some h]; exact h
  | refresh => exact absurd rfl hk'
  | next => exact absurd rfl hk
  | execute a => rw [run_eq_carryOut]; exact h
  | send body => rw [run_eq_carryOut]; exact h
  | request q => rw [run_eq_carryOut]; exact h

end

/-! ## Views after any calls -/

theorem runAll_concat (ks : List Errand) (k : Errand) (c : Client σ) :
    runAll (ks ++ [k]) c = ((runAll ks c).run k).2 := by
  simp [runAll]

/-- Where there is a frame there are metadata. -/
theorem isSome_metadata_of_frame {c : Client σ} (hnew : c.frame = none) (ks : List Errand)
    (h : (runAll ks c).frame.isSome) : (runAll ks c).metadata.isSome := by
  induction ks using List.reverseRecOn with
  | nil => simp [runAll, hnew] at h
  | append_singleton ks k ih =>
    rw [runAll_concat] at h ⊢
    by_cases hk : k = .next
    · subst hk
      rcases @next_cases σ _ (runAll ks c) with ⟨-, data, m, -, hm, -⟩ | ⟨-, hf⟩
      · rw [run, hm]; rfl
      · simp [run, hf] at h
    · rw [frame_run hk] at h
      by_cases hk' : k = .refresh
      · subst hk'
        exact isSome_metadata_refresh (ih h)
      · obtain ⟨m, hm⟩ := Option.isSome_iff_exists.1 (ih h)
        rw [metadata_run hk hk' hm]; rfl

/-- **A view is what was fetched last.** Whatever a server answers and whatever calls are made on a client
that has no frame yet: when a view is shown, the last call for a frame was answered by that frame, with a
view that was complete. The bytes are still the same, and so is the view if the metadata were not asked for
anew since; in any case it is complete if and only if its metadata are of the same size as those with which
it was fetched. -/
theorem current_fetched {c : Client σ} (hnew : c.frame = none) (ks : List Errand) {v : View}
    (h : (runAll ks c).current = .ok v) :
    ∃ before after fetched, ks = before ++ .next :: after ∧ .next ∉ after ∧
      (runAll before c).next.1 = .ok () ∧ (runAll before c).next.2.current = .ok fetched ∧
      fetched.isComplete = true ∧ v.data = fetched.data ∧ (.refresh ∉ after → v = fetched) ∧
      (v.isComplete = true ↔ v.metadata.size = fetched.metadata.size) := by
  induction ks using List.reverseRecOn generalizing v with
  | nil => simp [runAll, current, hnew] at h
  | append_singleton ks k ih =>
    rw [runAll_concat] at h
    obtain ⟨hframe, hmetadata⟩ := current_eq_ok.1 h
    by_cases hk : k = .next
    · subst hk
      rcases @next_cases σ _ (runAll ks c) with ⟨hok, data, m, hf, hm, hsize⟩ | ⟨-, hf⟩
      · have hdata : v.data = data := Option.some.inj (hframe.symm.trans hf)
        have hm' : v.metadata = m := Option.some.inj (hmetadata.symm.trans hm)
        have hcomplete : v.isComplete = true := by simp [View.isComplete, hdata, hm', hsize]
        exact ⟨ks, [], v, rfl, by simp, hok, h, hcomplete, rfl, fun _ => rfl, by simp [hcomplete]⟩
      · simp [run, hf] at hframe
    · rw [frame_run hk] at hframe
      obtain ⟨m, hm⟩ := Option.isSome_iff_exists.1
        (isSome_metadata_of_frame hnew ks (by rw [hframe]; rfl))
      obtain ⟨before, after, fetched, rfl, hafter, hok, hfetched, hcomplete, hdata, hsame, -⟩ :=
        ih (v := ⟨m, v.data⟩) (current_eq_ok.2 ⟨hframe, hm⟩)
      have hlength : v.data.length = fetched.metadata.size := by
        rw [show v.data = fetched.data from hdata]
        simpa [View.isComplete] using hcomplete
      refine ⟨before, after ++ [k], fetched, by simp, ?_, hok, hfetched, hcomplete, hdata, ?_, ?_⟩
      · simp [hafter, Ne.symm hk]
      · intro hrefresh
        simp only [List.mem_append, List.mem_singleton, not_or] at hrefresh
        have hkept : v.metadata = m := by
          rw [metadata_run hk (Ne.symm hrefresh.2) hm] at hmetadata
          exact (Option.some.inj hmetadata).symm
        rw [← hsame hrefresh.1, ← hkept]
      · simp only [View.isComplete, beq_iff_eq, hlength]
        exact eq_comm

/-- A peer that sends a frame, then metadata of another size. -/
def resized : Client Connection where
  endpoint := .unix "frames.sock"
  channel.stream.arrivals :=
    let describe (width : UInt32) : Message :=
      (Reply.json (Metadata.toJson ⟨.uint8, width, 1, .grayscale, .planar, "topLeft"⟩)).toMessage
    [describe 4, ⟨.binary, [1, 2, 3, 4]⟩, describe 3].map fun m => .data (m.encode.toOption.getD [])

theorem cached_resized : (runAll [.next, .refresh] resized).frame = some [1, 2, 3, 4] ∧
    (runAll [.next, .refresh] resized).metadata =
      some ⟨.uint8, 3, 1, .grayscale, .planar, "topLeft"⟩ := by decide +kernel

/-- The frame that was fetched was complete; the metadata that were asked for later are of another size. -/
theorem current_fetched_resized : resized.frame = none ∧
    ∃ v before after fetched, (runAll [.next, .refresh] resized).current = .ok v ∧
      [.next, .refresh] = before ++ Errand.next :: after ∧
      (runAll before resized).next.2.current = .ok fetched ∧ fetched.isComplete = true ∧
      v.data = fetched.data ∧ (v.isComplete = true ↔ v.metadata.size = fetched.metadata.size) := by
  have hcurrent : (runAll [.next, .refresh] resized).current =
      .ok ⟨⟨.uint8, 3, 1, .grayscale, .planar, "topLeft"⟩, [1, 2, 3, 4]⟩ := current_eq_ok.2 cached_resized
  obtain ⟨before, after, fetched, hks, -, -, hfetched, hcomplete, hdata, -, hsize⟩ :=
    current_fetched (show resized.frame = none from rfl) [.next, .refresh] hcurrent
  exact ⟨rfl, _, before, after, fetched, hcurrent, hks, hfetched, hcomplete, hdata, hsize⟩

/-- The bytes of the frame are shown under the new metadata. -/
theorem current_of_refresh_of_other_size :
    (runAll [.next, .refresh] resized).current =
        .ok ⟨⟨.uint8, 3, 1, .grayscale, .planar, "topLeft"⟩, [1, 2, 3, 4]⟩ ∧
      View.isComplete ⟨⟨.uint8, 3, 1, .grayscale, .planar, "topLeft"⟩, [1, 2, 3, 4]⟩ = false :=
  ⟨current_eq_ok.2 cached_resized, by decide⟩

end FrameFeed.Client
