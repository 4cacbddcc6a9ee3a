import FrameFeed.Command.Run
import FrameFeed.Proofs.Client.Views
import FrameFeed.Proofs.Source.Copying
import Mathlib.Data.List.DropRight
/-!
# What a grab prints

A grab calls for one frame after the other. What its calls may give is a series of frames and errors in any
mix (`Client.results`), and the series alone decides how it ends: it goes on while nothing but frames and a
few timeouts and overflows come (`GoesOn`), until it has its frames or the stream is over, and prints a line
for each frame, whatever was in its buffer before (`frames_or_failure`). But for that the buffer has to be
there: metadata that no buffer can meet crash it, even if no frame were to come (`crash_of_oversized`).
-/
namespace FrameFeed

variable {σ : Type} [Channel σ]

/-! ## What successive calls give -/

namespace Client

/-- What a call for the next frame gives: the view of the frame, or why there is none. -/
def fetched (c : Client σ) : Except FrameError View :=
  match c.next.1 with
  | .ok () => c.next.2.current
  | .error e => .error e

/-- The client after `n` calls for the next frame. -/
def after (c : Client σ) : Nat → Client σ
  | 0 => c
  | n + 1 => (after c n).next.2

/-- What the first `n` calls for the next frame give. -/
def results (c : Client σ) (n : Nat) : List (Except FrameError View) :=
  (List.range n).map fun i => (c.after i).fetched

theorem fetched_cases (c : Client σ) :
    (∃ v, c.fetched = .ok v ∧ c.next = (.ok (), c.next.2) ∧ c.next.2.current = .ok v ∧ v.isComplete = true) ∨
      ∃ e, c.fetched = .error e ∧ c.next = (.error e, c.next.2) := by
  rcases @next_cases σ _ c with ⟨hok, data, m, hf, hm, hsize⟩ | ⟨⟨e, he⟩, -⟩
  · have hcurrent : c.next.2.current = .ok ⟨m, data⟩ := current_eq_ok.2 ⟨hf, hm⟩
    refine .inl ⟨⟨m, data⟩, ?_, Prod.ext hok rfl, hcurrent, by simp [View.isComplete, hsize]⟩
    rw [fetched, hok]
    exact hcurrent
  · refine .inr ⟨e, ?_, Prod.ext he rfl⟩
    rw [fetched, he]

theorem results_succ (c : Client σ) (n : Nat) : c.results (n + 1) = c.results n ++ [(c.after n).fetched] := by
  simp [results, List.range_succ]

theorem results_isPrefix (c : Client σ) {n k : Nat} (h : n ≤ k) : c.results n <+: c.results k := by
  induction k, h using Nat.le_induction with
  | base => exact List.prefix_rfl
  | succ k _ ih => exact ih.trans (c.results_succ k ▸ List.prefix_append _ _)

theorem fetched_mem_results (c : Client σ) {n k : Nat} (h : k < n) : (c.after k).fetched ∈ c.results n :=
  List.mem_map_of_mem (List.mem_range.2 h)

end Client

namespace Grab

/-! ## Results with which a grab goes on -/

section
variable {retries : Nat} {rs rs' : List (Except FrameError View)} {v : View} {e : FrameError}

/-- The frames among the results. -/
def views (rs : List (Except FrameError View)) : List View := rs.filterMap Except.toOption

/-- The number of failures since the last frame. -/
def failing (rs : List (Except FrameError View)) : Nat :=
  (rs.rtakeWhile fun r => r.toOption.isNone).length

/-- These results do not stop a grab: the errors are such that it makes sense to ask again, and no more than
`retries` of them follow one another. -/
structure GoesOn (retries : Nat) (rs : List (Except FrameError View)) : Prop where
  recoverable : ∀ e, .error e ∈ rs → e.isRecoverable = true
  few : ∀ run, run <:+: rs → (∀ r ∈ run, ∃ e, r = .error e) → run.length ≤ retries

@[simp] theorem views_frame : views (rs ++ [.ok v]) = views rs ++ [v] := by
  simp [views, Except.toOption]

@[simp] theorem views_error : views (rs ++ [.error e]) = views rs := by
  simp [views, Except.toOption]

@[simp] theorem failing_frame : failing (rs ++ [.ok v]) = 0 := by
  simp [failing, Except.toOption]

@[simp] theorem failing_error : failing (rs ++ [.error e]) = failing rs + 1 := by
  simp [failing, Except.toOption]

/-- No errors at the end are more than those since the last frame. -/
theorem length_le_failing {run : List (Except FrameError View)} (hrun : run <:+ rs)
    (herrors : ∀ r ∈ run, ∃ e, r = .error e) : run.length ≤ failing rs := by
  induction rs using List.reverseRecOn generalizing run with
  | nil => rw [List.suffix_nil.1 hrun]; exact Nat.zero_le _
  | append_singleton rs r ih =>
    rcases List.suffix_concat_iff.1 hrun with rfl | ⟨run, rfl, hrun'⟩
    · exact Nat.zero_le _
    · obtain ⟨e, rfl⟩ := herrors r (by simp)
      have hrest := ih hrun' fun r hr => herrors r (List.mem_append_left _ hr)
      simpa using hrest

theorem GoesOn.of_isPrefix (h : GoesOn retries rs') (hrs : rs <+: rs') : GoesOn retries rs where
  recoverable e he := h.recoverable e (hrs.subset he)
  few run hrun := h.few run (hrun.trans hrs.isInfix)

theorem goesOn_nil : GoesOn retries [] where
  recoverable e he := absurd he List.not_mem_nil
  few run hrun _ := by rw [List.infix_nil.1 hrun]; exact Nat.zero_le _

theorem GoesOn.failing_le (h : GoesOn retries rs) : failing rs ≤ retries := by
  refine h.few _ (List.rtakeWhile_suffix _ rs).isInfix fun r hr => ?_
  have hnone := List.mem_rtakeWhile_imp hr
  cases r with
  | error e => exact ⟨e, rfl⟩
  | ok v => cases hnone

theorem GoesOn.frame (h : GoesOn retries rs) : GoesOn retries (rs ++ [.ok v]) where
  recoverable e he := h.recoverable e (by simpa using he)
  few run hrun herrors := by
    rcases List.infix_concat_iff.1 hrun with hend | hrun
    · exact (length_le_failing hend herrors).trans (by simp)
    · exact h.few run hrun herrors

theorem goesOn_error :
    GoesOn retries (rs ++ [.error e]) ↔ GoesOn retries rs ∧ e.isRecoverable = true ∧ failing rs < retries := by
  constructor
  · intro h
    have hfailing := h.failing_le
    rw [failing_error] at hfailing
    exact ⟨h.of_isPrefix (List.prefix_append _ _), h.recoverable e (by simp), hfailing⟩
  · rintro ⟨h, he, hfailing⟩
    refine ⟨fun e' he' => ?_, fun run hrun herrors => ?_⟩
    · rcases List.mem_append.1 he' with he' | he'
      · exact h.recoverable e' he'
      · cases List.mem_singleton.1 he'
        exact he
    · rcases List.infix_concat_iff.1 hrun with hend | hrun
      · exact (length_le_failing hend herrors).trans (failing_error.trans_le hfailing)
      · exact h.few run hrun herrors

/-- A frame costs at most one call for each time that it is asked for. -/
theorem GoesOn.length_le (h : GoesOn retries rs) : rs.length ≤ (views rs).length * (retries + 1) + failing rs := by
  induction rs using List.reverseRecOn with
  | nil => exact Nat.zero_le _
  | append_singleton rs r ih =>
    have hrs : GoesOn retries rs := h.of_isPrefix (List.prefix_append _ _)
    have hlength := ih hrs
    have hfailing := hrs.failing_le
    cases r with
    | ok v =>
      simp only [views_frame, failing_frame, List.length_append, List.length_singleton, Nat.add_mul, Nat.one_mul]
      omega
    | error e =>
      simp only [views_error, failing_error, List.length_append, List.length_singleton]
      omega

end

/-! ## The buffer -/

/-- A frame that is all there can be copied to any buffer, and it is what is read back. -/
theorem readBack_copyGrowing {v : View} (hv : v.isComplete = true) (buffer : Bytes) :
    (copyGrowing (.ok v) buffer).1 = .ok v ∧ readBack v (copyGrowing (.ok v) buffer).2 = v := by
  have hlength : v.length = v.metadata.size := by simpa [View.isComplete, View.length] using hv
  have hneeded : v.needed = v.metadata.size := by rw [View.needed, hlength, Nat.max_self]
  have hfront : ∀ rest, readBack v (v.data ++ rest) = v := by
    intro rest
    rw [readBack, View.length, List.take_left']
    rfl
  rcases Nat.lt_or_ge buffer.length v.needed with hsmall | hfits
  · have hgrown : v.needed ≤
        (buffer.take v.metadata.size ++ List.replicate (v.metadata.size - buffer.length) 0).length := by
      simp only [List.length_append, List.length_take, List.length_replicate]
      omega
    simp only [copyGrowing, copyInto_of_small hsmall, copyInto_of_fits hgrown]
    exact ⟨trivial, hfront _⟩
  · simp only [copyGrowing, copyInto_of_fits hfits]
    exact ⟨trivial, hfront _⟩

/-! ## One turn -/

section
variable {retries left failures : Nat} {acc : List FrameSummary} {c : Client σ}

theorem pull_frame {v : View} (h : c.fetched = .ok v) (buffer : Bytes) :
    pull retries (left + 1) failures buffer acc c =
      pull retries left 0 (copyGrowing (.ok v) buffer).2 (acc ++ [FrameSummary.ofView acc.length v])
        c.next.2 := by
  rcases c.fetched_cases with ⟨v', hv', hnext, hcurrent, hcomplete⟩ | ⟨e, he, -⟩
  · obtain rfl : v = v' := Except.ok.inj (h.symm.trans hv')
    obtain ⟨hcopied, hback⟩ := readBack_copyGrowing hcomplete buffer
    have hcopy : copyGrowing c.next.2.current buffer = (.ok v, (copyGrowing (.ok v) buffer).2) := by
      rw [hcurrent]
      exact Prod.ext hcopied rfl
    conv_lhs => rw [pull, hnext]
    simp only [hcopy, hback]
  · cases h.symm.trans he

theorem next_of_fetched_error {e : FrameError} (h : c.fetched = .error e) : c.next = (.error e, c.next.2) := by
  rcases c.fetched_cases with ⟨v, hv, -⟩ | ⟨e', he', hnext⟩
  · cases h.symm.trans hv
  · cases h.symm.trans he'
    exact hnext

theorem pull_endOfStream (h : c.fetched = .error .endOfStream) (buffer : Bytes) :
    pull retries (left + 1) failures buffer acc c = (.ok acc, c.next.2) := by
  conv_lhs => rw [pull, next_of_fetched_error h]

theorem pull_error {e : FrameError} (h : c.fetched = .error e) (he : e ≠ .endOfStream) (buffer : Bytes) :
    pull retries (left + 1) failures buffer acc c =
      if e.isRecoverable ∧ failures < retries then
        pull retries (left + 1) (failures + 1) buffer acc c.next.2
      else (.error (.ofFrame "frame request failed" e), c.next.2) := by
  conv_lhs => rw [pull, next_of_fetched_error h]
  cases e with
  | endOfStream => exact absurd rfl he
  | _ => rfl

/-- What the buffer holds beforehand makes no difference. -/
theorem pull_buffer (retries left failures : Nat) (buffer buffer' : Bytes) (acc : List FrameSummary)
    (c : Client σ) :
    pull retries left failures buffer acc c = pull retries left failures buffer' acc c := by
  match left with
  | 0 => rw [pull, pull]
  | left + 1 =>
    cases hr : c.fetched with
    | ok v =>
      rw [pull_frame hr, pull_frame hr]
      exact pull_buffer ..
    | error e =>
      by_cases he : e = .endOfStream
      · subst he
        rw [pull_endOfStream hr, pull_endOfStream hr]
      · rw [pull_error hr he, pull_error hr he]
        split
        · exact pull_buffer ..
        · rfl
termination_by (left, retries - failures)

end

/-! ## A whole grab -/

section
variable {count retries n k left failures : Nat} {acc : List FrameSummary} {c : Client σ} {e : FrameError}

/-- The lines for these frames, which are numbered from nought. -/
def summaries (vs : List View) : List FrameSummary := vs.mapIdx FrameSummary.ofView

/-- After `n` calls nothing stopped a grab of `count` frames, and either it has them or the next call says
that the stream is over. -/
def Enough (count retries : Nat) (c : Client σ) (n : Nat) : Prop :=
  GoesOn retries (c.results n) ∧
    (count ≤ (views (c.results n)).length ∨ (c.after n).fetched = .error .endOfStream)

/-- The call after `n` calls gives an error with which a grab of `count` frames, which has not got them all,
does not go on. -/
structure Stopped (count retries : Nat) (c : Client σ) (n : Nat) (e : FrameError) : Prop where
  goesOn : GoesOn retries (c.results n)
  missing : (views (c.results n)).length < count
  fetched : (c.after n).fetched = .error e
  ne_endOfStream : e ≠ .endOfStream
  stops : ¬ GoesOn retries (c.results (n + 1))

/-- How a grab ends, by the number of its calls. -/
inductive Ends (count retries : Nat) (c : Client σ) : Nat → Except Failure (List FrameSummary) → Prop where
  | full {n : Nat} : GoesOn retries (c.results n) → (views (c.results n)).length = count →
      Ends count retries c n (.ok (summaries (views (c.results n))))
  | ended {n : Nat} : GoesOn retries (c.results n) → (views (c.results n)).length < count →
      (c.after n).fetched = .error .endOfStream →
      Ends count retries c (n + 1) (.ok (summaries (views (c.results n))))
  | stopped {n : Nat} {e : FrameError} : Stopped count retries c n e →
      Ends count retries c (n + 1) (.error (.ofFrame "frame request failed" e))

/-- Where a grab stands that made `k` calls. -/
structure Underway (count retries : Nat) (c : Client σ) (k left failures : Nat) (acc : List FrameSummary) :
    Prop where
  goesOn : GoesOn retries (c.results k)
  left_eq : left + (views (c.results k)).length = count
  failures_eq : failures = failing (c.results k)
  acc_eq : acc = summaries (views (c.results k))
  calls_le : k ≤ count * (retries + 1)

theorem calls_lt (h : GoesOn retries (c.results k)) (hmissing : (views (c.results k)).length < count) :
    k < count * (retries + 1) := by
  have hcalls := h.length_le
  have hfailing := h.failing_le
  have hframes : ((views (c.results k)).length + 1) * (retries + 1) ≤ count * (retries + 1) :=
    Nat.mul_le_mul_right _ hmissing
  have hlength : (c.results k).length = k := by simp [Client.results]
  rw [Nat.add_mul, Nat.one_mul] at hframes
  omega

theorem underway_zero : Underway count retries c 0 count 0 [] :=
  ⟨goesOn_nil, rfl, rfl, rfl, Nat.zero_le _⟩

theorem Underway.missing (h : Underway count retries c k (left + 1) failures acc) :
    (views (c.results k)).length < count := by
  have := h.left_eq
  omega

theorem Underway.frame (h : Underway count retries c k (left + 1) failures acc) {v : View}
    (hr : (c.after k).fetched = .ok v) :
    Underway count retries c (k + 1) left 0 (acc ++ [FrameSummary.ofView acc.length v]) := by
  have hleft := h.left_eq
  refine ⟨?_, ?_, ?_, ?_, calls_lt h.goesOn h.missing⟩
  all_goals rw [c.results_succ, hr]
  · exact h.goesOn.frame
  · rw [views_frame, List.length_append, List.length_singleton]
    omega
  · exact failing_frame.symm
  · rw [views_frame, summaries, List.mapIdx_concat, h.acc_eq]
    simp [summaries]

theorem Underway.retry (h : Underway count retries c k (left + 1) failures acc)
    (hr : (c.after k).fetched = .error e) (he : e.isRecoverable = true) (hfailures : failures < retries) :
    Underway count retries c (k + 1) (left + 1) (failures + 1) acc := by
  have hfew := h.failures_eq
  refine ⟨?_, ?_, ?_, ?_, calls_lt h.goesOn h.missing⟩
  all_goals rw [c.results_succ, hr]
  · exact goesOn_error.2 ⟨h.goesOn, he, hfew ▸ hfailures⟩
  · rw [views_error]
    exact h.left_eq
  · rw [failing_error, hfew]
  · rw [views_error]
    exact h.acc_eq

/-- Wherever a grab stands, it comes to an end. -/
theorem Underway.ends {k left failures : Nat} {acc : List FrameSummary}
    (h : Underway count retries c k left failures acc) (buffer : Bytes) :
    ∃ n r, n ≤ count * (retries + 1) ∧
      pull retries left failures buffer acc (c.after k) = (r, c.after n) ∧ Ends count retries c n r := by
  -- turn by turn, as `pull` goes, and by its measure
  match left with
  | 0 =>
    refine ⟨k, _, h.calls_le, by rw [pull], ?_⟩
    have hfull : (views (c.results k)).length = count := by
      have := h.left_eq
      omega
    rw [h.acc_eq]
    exact .full h.goesOn hfull
  | left + 1 =>
    cases hr : (c.after k).fetched with
    | ok v =>
      rw [pull_frame hr]
      exact (h.frame hr).ends _
    | error e =>
      by_cases he : e = .endOfStream
      · subst he
        refine ⟨k + 1, _, calls_lt h.goesOn h.missing, pull_endOfStream hr buffer, ?_⟩
        rw [h.acc_eq]
        exact .ended h.goesOn h.missing hr
      · rw [pull_error hr he]
        split
        · rename_i hagain
          exact (h.retry hr hagain.1 hagain.2).ends buffer
        · rename_i hagain
          refine ⟨k + 1, _, calls_lt h.goesOn h.missing, rfl, .stopped ⟨h.goesOn, h.missing, hr, he, ?_⟩⟩
          rw [c.results_succ, hr, goesOn_error, ← h.failures_eq]
          exact fun hgoes => hagain hgoes.2
termination_by (left, retries - failures)

/-! ### What the end says of the results -/

theorem views_isPrefix (c : Client σ) (h : n ≤ k) : views (c.results n) <+: views (c.results k) :=
  (c.results_isPrefix h).filterMap _

theorem GoesOn.ne_endOfStream (h : GoesOn retries (c.results n)) (hk : k < n) :
    (c.after k).fetched ≠ .error .endOfStream := by
  intro hover
  cases h.recoverable .endOfStream (hover ▸ c.fetched_mem_results hk)

/-- As long as frames are missing and nothing stops a grab, it has not had enough before. -/
theorem Enough.not_before (hk : Enough count retries c k) (hgoes : GoesOn retries (c.results n))
    (hmissing : (views (c.results n)).length < count) : n ≤ k := by
  by_contra hbefore
  have hbefore := Nat.lt_of_not_le hbefore
  rcases hk.2 with hcount | hover
  · have hlength := (views_isPrefix c hbefore.le).length_le
    omega
  · exact hgoes.ne_endOfStream hbefore hover

/-- Wherever a grab has enough, it ends with the frames that came up to there. -/
theorem Ends.of_enough {r : Except Failure (List FrameSummary)} (h : Ends count retries c n r)
    (hk : Enough count retries c k) : r = .ok (summaries ((views (c.results k)).take count)) := by
  cases h with
  | full hgoes hfull =>
    -- either list of frames may be the longer one
    rcases Nat.lt_or_ge k n with hbefore | hafter
    · have hcount : count ≤ (views (c.results k)).length :=
        hk.2.resolve_right (hgoes.ne_endOfStream hbefore)
      have hsame : views (c.results k) = views (c.results n) :=
        (views_isPrefix c hbefore.le).eq_of_length_le (hfull.trans_le hcount)
      rw [hsame, List.take_of_length_le hfull.le]
    · rw [← hfull, ← List.prefix_iff_eq_take.1 (views_isPrefix c hafter)]
  | @ended n hgoes hmissing hover =>
    have hfirst : n ≤ k := hk.not_before hgoes hmissing
    have hlast : k ≤ n := Nat.not_lt.1 fun hlate => hk.1.ne_endOfStream hlate hover
    obtain rfl : k = n := hlast.antisymm hfirst
    rw [List.take_of_length_le hmissing.le]
  | @stopped n e h =>
    have hfirst : n ≤ k := hk.not_before h.goesOn h.missing
    have hlast : k ≤ n := Nat.not_lt.1 fun hlate => h.stops (hk.1.of_isPrefix (c.results_isPrefix hlate))
    obtain rfl : k = n := hlast.antisymm hfirst
    rcases hk.2 with hcount | hover
    · exact absurd hcount (Nat.not_le.2 h.missing)
    · exact absurd (Except.error.inj (h.fetched.symm.trans hover)) h.ne_endOfStream

theorem Ends.of_not_enough {r : Except Failure (List FrameSummary)} (h : Ends count retries c n r)
    (hnever : ¬ ∃ k, Enough count retries c k) :
    ∃ k e, n = k + 1 ∧ Stopped count retries c k e ∧ r = .error (.ofFrame "frame request failed" e) := by
  cases h with
  | full hgoes hfull => exact absurd ⟨_, hgoes, .inl hfull.ge⟩ hnever
  | ended hgoes _ hover => exact absurd ⟨_, hgoes, .inr hover⟩ hnever
  | stopped h => exact ⟨_, _, rfl, h, rfl⟩

end

theorem code_ofFrame_ne_zero (context : String) (e : FrameError) : (Failure.ofFrame context e).code ≠ 0 := by
  cases e <;> exact Nat.succ_ne_zero _

section
variable {connect : ClientSettings → Except FrameError (Client σ)} {reach : Reach} {s : ClientSettings}
  {c₀ c : Client σ} {m : Metadata}

theorem run_grab (hs : Command.clientSettings reach = .ok s) (hconnect : connect s = .ok c₀)
    (hknown : c₀.known = (.ok m, c)) (format : Format) (count retries : Nat) :
    Command.run connect format (.grab reach count retries) =
      if bufferLimit < m.size then (.crash, some c)
      else match pull retries count 0 [] [] c with
        | (.ok fs, c) => (.printed (Output.frames fs format), some c)
        | (.error f, c) => (.failed f, some c) := by
  simp only [Command.run, Command.withClient, hs, hconnect, run, hknown]
  by_cases hsize : bufferLimit < m.size
  · simp only [hsize, if_true]
  · simp only [hsize, if_false]
    rcases pull retries count 0 [] [] c with ⟨fs | f, c⟩ <;> rfl

/-- **A grab prints the right frames or fails for the right reason.** A client was opened, and the metadata are
known. If these describe more than a buffer can hold, the grab crashes. Otherwise it ends after finitely many
calls for a frame, whatever they give. It succeeds exactly if there are `count` frames or the stream is over
before a call fails otherwise than by a timeout or an overflow, and before more than `retries` of these follow
one another. Then it prints a line for each of the first `count` frames, or of all there are, numbered in their
order, and what the line tells is that frame's own. Otherwise it fails with the error that stopped it. What the
buffer holds beforehand makes no difference. -/
theorem frames_or_failure (hs : Command.clientSettings reach = .ok s) (hconnect : connect s = .ok c₀)
    (hknown : c₀.known = (.ok m, c)) (format : Format) (count retries : Nat) :
    (bufferLimit < m.size →
      Command.run connect format (.grab reach count retries) = (.crash, some c)) ∧
    (m.size ≤ bufferLimit → ∃ n o, n ≤ count * (retries + 1) ∧
      Command.run connect format (.grab reach count retries) = (o, some (c.after n)) ∧
      (o.code = 0 ↔ ∃ k, Enough count retries c k) ∧
      (∀ k, Enough count retries c k →
        o = .printed (Output.frames (summaries ((views (c.results k)).take count)) format)) ∧
      ((¬ ∃ k, Enough count retries c k) → ∃ k e, n = k + 1 ∧ Stopped count retries c k e ∧
        o = .failed (.ofFrame "frame request failed" e))) ∧
    ∀ buffer, pull retries count 0 buffer [] c = pull retries count 0 [] [] c := by
  refine ⟨fun hsize => ?_, fun hsize => ?_, fun buffer => pull_buffer ..⟩
  · rw [run_grab hs hconnect hknown, if_pos hsize]
  · obtain ⟨n, r, hn, hpull, hends⟩ := (underway_zero : Underway count retries c 0 count 0 []).ends []
    rw [Client.after] at hpull
    rw [run_grab hs hconnect hknown, if_neg (Nat.not_lt.2 hsize), hpull]
    by_cases henough : ∃ k, Enough count retries c k
    · obtain ⟨k, hk⟩ := henough
      obtain rfl := hends.of_enough hk
      refine ⟨n, _, hn, rfl, ⟨fun _ => ⟨k, hk⟩, fun _ => rfl⟩, fun k' hk' => ?_, fun hnever => ?_⟩
      · rw [Except.ok.inj (hends.of_enough hk')]
      · exact absurd ⟨k, hk⟩ hnever
    · obtain ⟨k, e, rfl, hstopped, rfl⟩ := hends.of_not_enough henough
      refine ⟨k + 1, _, hn, rfl, ⟨fun hcode => ?_, fun h => absurd h henough⟩,
        fun k' hk' => absurd ⟨k', hk'⟩ henough, fun _ => ⟨k, e, rfl, hstopped, rfl⟩⟩
      exact absurd hcode (code_ofFrame_ne_zero _ e)

end

/-! ## Two runs -/

def row (width : UInt32) : Metadata := ⟨.uint8, width, 1, .grayscale, .planar, "topLeft"⟩

/-- A client whose peer sends these messages and no others. -/
def hearing (ms : List Message) : Client Connection where
  endpoint := .unix "frames.sock"
  channel.stream.arrivals := ms.map fun m => .data (m.encode.toOption.getD [])

def described (m : Metadata) : Message := (Reply.json m.toJson).toMessage

def failed (e : FrameError) : Message := (Reply.error (.ofFrameError e)).toMessage

/-- Frames that get longer and shorter, with an overflow in between, until the stream is over. -/
def uneven : Client Connection :=
  hearing [described (row 2), ⟨.binary, [1, 2]⟩, failed .overflow, ⟨.binary, [3, 4, 5]⟩, described (row 3),
    ⟨.binary, [6]⟩, described (row 1), failed .endOfStream]

/-- Metadata that no buffer can meet, though their size fits in a word. -/
def vast : Metadata := { row 4294967295 with height := 2147483650 }

/-- Whoever connects gets this client. -/
def opening (c : Client Connection) (_ : ClientSettings) : Except FrameError (Client Connection) := .ok c

def nearby : Reach := ⟨"unix:frames.sock", 0, "5s"⟩

def nearbySettings : ClientSettings where
  address := "unix:frames.sock"
  portNumber := 0
  readTimeout := some 5000
  writeTimeout := some 5000

theorem clientSettings_nearby : Command.clientSettings nearby = .ok nearbySettings := by decide +kernel

theorem results_uneven : uneven.known.2.results 4 =
    [.ok ⟨row 2, [1, 2]⟩, .error .overflow, .ok ⟨row 3, [3, 4, 5]⟩, .ok ⟨row 1, [6]⟩] := by decide +kernel

/-- The overflow is tried again, and each of the three frames has a line that tells its own bytes. -/
theorem frames_or_failure_uneven :
    Command.clientSettings nearby = .ok nearbySettings ∧ uneven.known.1 = .ok (row 2) ∧
    Enough 5 1 uneven.known.2 4 ∧
    (Command.run (opening uneven) .table (.grab nearby 5 1)).1 = .printed
      (Output.frames (summaries [⟨row 2, [1, 2]⟩, ⟨row 3, [3, 4, 5]⟩, ⟨row 1, [6]⟩]) .table) := by
  have hknown : uneven.known.1 = .ok (row 2) := by decide +kernel
  have hgoes : GoesOn 1 (uneven.known.2.results 4) := by
    rw [results_uneven]
    exact (goesOn_error.2 ⟨goesOn_nil.frame, rfl, by decide⟩).frame.frame
  have hconnect : opening uneven nearbySettings = .ok uneven := rfl
  have henough : Enough 5 1 uneven.known.2 4 := ⟨hgoes, .inr (by decide +kernel)⟩
  obtain ⟨-, hsized, -⟩ := frames_or_failure clientSettings_nearby hconnect
    (Prod.ext hknown rfl) .table 5 1
  obtain ⟨n, o, -, hrun, -, hprinted, -⟩ := hsized (by decide)
  refine ⟨clientSettings_nearby, hknown, henough, ?_⟩
  rw [hrun, hprinted 4 henough, results_uneven]
  rfl

/-- No frame is to come, so nothing has to be copied, but the grab crashes for want of a buffer. -/
theorem crash_at_end_of_stream :
    let c := hearing [described vast, failed .endOfStream]
    Command.clientSettings nearby = .ok nearbySettings ∧ c.known.1 = .ok vast ∧
      vast.checkedSize.isSome ∧ Enough 1 0 c.known.2 0 ∧
      Command.run (opening c) .json (.grab nearby 1 0) = (.crash, some c.known.2) ∧
      Outcome.crash.code ≠ 0 := by
  intro c
  have hknown : c.known.1 = .ok vast := by decide +kernel
  refine ⟨clientSettings_nearby, hknown, by decide, ⟨goesOn_nil, .inr (by decide +kernel)⟩, ?_, by decide⟩
  rw [run_grab clientSettings_nearby rfl (Prod.ext hknown rfl)]
  exact if_pos (by decide)

end Grab
end FrameFeed
