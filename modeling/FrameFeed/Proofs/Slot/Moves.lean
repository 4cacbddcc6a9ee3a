import FrameFeed.Feed.Slot
/-!
# What a step of a slot can do

`Acts` lists what an act of a producer can do to a slot and `Moves` what a step of either side can,
each case with the state it needs; `moves_step` says that the lists are complete. A history is the
list of events that a run shows, and `Reaches` ties it to where the run leads (`reaches_run`), so that
what every run keeps is proved by going through the moves once. A whole call of the consumer is a run
(`runs_pull`).
-/
namespace FrameFeed
namespace Slot

/-- The cause for which a producer ends the stream. -/
def Act.cause? : Act → Option FrameError
  | .endOfStream => some .endOfStream
  | .fault reason => some (.faulted reason)
  | _ => none

/-- What an act can answer and leave behind. -/
inductive Acts (s : Slot) : Act → ActResult → Slot → Prop where
  | pollClosed (hs : s.isClosed = true) : Acts s .poll (.polled .closed) s
  /-- Nobody asks, or the request has its producer. -/
  | pollNothing (hs : s.isClosed = false) (hr : ∀ t, s.requested = some t → s.claimed = some t) :
    Acts s .poll (.polled .timedOut) s
  | claim {t : Nat} (hs : s.isClosed = false) (hr : s.requested = some t) (hc : s.claimed ≠ some t) :
    Acts s .poll (.polled (.ready t)) { s with claimed := some t }
  | look : Acts s .look (.looked s.isClosed) s
  | publishClosed {t : Nat} {m : Metadata} {d : Bytes} (hs : s.isClosed = true) :
    Acts s (.publish t m d) (.published .closed) s
  /-- The ticket is too old, or its request is answered. -/
  | discard {t : Nat} {m : Metadata} {d : Bytes} (hs : s.isClosed = false)
    (hn : (s.requested ≠ some t ∧ s.withdrawn ≠ some t) ∨ s.frame.isSome) :
    Acts s (.publish t m d) (.published .discarded)
      { s with stats := { s.stats with discarded := s.stats.discarded + 1 } }
  | deliver {t : Nat} {m : Metadata} {d : Bytes} (hs : s.isClosed = false) (hf : s.frame = none)
    (ht : s.requested = some t ∨ s.withdrawn = some t) :
    Acts s (.publish t m d) (.published .delivered)
      { s with
        requested := none
        withdrawn := none
        frame := some ⟨m, d, t⟩
        state := .ready
        stats := { s.stats with
          late := if s.withdrawn = some t then s.stats.late + 1 else s.stats.late
          delivered := s.stats.delivered + 1 } }
  | overflowOver (hs : s.terminal.isSome = true) : Acts s .overflow .done s
  | overflow (hs : s.terminal = none) :
    Acts s .overflow .done
      { s with
        overflowPending := true
        stats := { s.stats with overflows := s.stats.overflows + 1 } }
  | endOver {a : Act} {e : FrameError} (ha : a.cause? = some e) (hs : s.terminal.isSome = true) :
    Acts s a .done s
  | finish {a : Act} {e : FrameError} (ha : a.cause? = some e) (hs : s.terminal = none) :
    Acts s a .done
      { s with
        terminal := some e
        state := if s.frame.isSome then s.state else terminalState e }

/-- What a step can show, and where it can lead, from a consumer and a slot. -/
inductive Moves (c : Consumer) (s : Slot) : Event → Consumer → Slot → Prop where
  | still : Moves c s .idle c s
  /-- A call that begins, or one that waits, gets the frame that is there. -/
  | hand {f : PublishedFrame} (hc : c ≠ .gone) (hf : s.frame = some f) :
    Moves c s (.pulled (.ok f)) .idle { s with frame := none, state := .ready }
  | refuse {e : FrameError} (hc : c = .idle) (hf : s.frame = none) (ht : s.terminal = some e) :
    Moves c s (.pulled (.error e)) .idle { s with state := terminalState e }
  | giveUp {e : FrameError} (hc : c = .waiting) (hf : s.frame = none) (ht : s.terminal = some e) :
    Moves c s (.pulled (.error e)) .idle { s with requested := none, state := terminalState e }
  | overflow (hc : c = .idle) (hf : s.frame = none) (ht : s.terminal = none)
    (ho : s.overflowPending = true) :
    Moves c s (.pulled (.error .overflow)) .idle { s with overflowPending := false }
  | issue (hc : c = .idle) (hf : s.frame = none) (ht : s.terminal = none)
    (ho : s.overflowPending = false) :
    Moves c s (.issued s.nextTicket) .waiting
      { s with
        nextTicket := s.nextTicket + 1
        requested := some s.nextTicket
        state := .waiting
        stats := { s.stats with requests := s.stats.requests + 1 } }
  | expire (hc : c = .waiting) (hf : s.frame = none) (ht : s.terminal = none) :
    Moves c s (.pulled (.error .timeout)) .idle
      { s with
        withdrawn := s.requested
        requested := none
        stats := { s.stats with timeouts := s.stats.timeouts + 1 } }
  | drop (hc : c = .idle) : Moves c s .dropped .gone { s with closed := true, requested := none }
  | act {a : Act} {r : ActResult} {s' : Slot} (h : Acts s a r s') : Moves c s (.acted a r) c s'

/-! ## The lists are complete -/

theorem acts_terminate (s : Slot) {a : Act} {e : FrameError} (ha : a.cause? = some e) :
    Acts s a .done (s.terminate e) := by
  unfold terminate
  split
  · rename_i hs; exact .endOver ha hs
  · rename_i hs; exact .finish ha (by simpa using hs)

theorem acts_act (s : Slot) (a : Act) : Acts s a (s.act a).1 (s.act a).2 := by
  cases a with
  | poll =>
    simp only [act, poll]
    split
    · rename_i hs; exact .pollClosed hs
    · rename_i hs
      have hs : s.isClosed = false := by simpa using hs
      split
      · rename_i t hr
        split
        · rename_i hc
          exact .pollNothing hs fun t' ht' => by rw [hr] at ht'; cases ht'; exact hc
        · rename_i hc; exact .claim hs hr hc
      · rename_i hr
        exact .pollNothing hs fun t' ht' => by rw [hr] at ht'; cases ht'
  | look => exact .look
  | publish t m d =>
    simp only [act, publish]
    split
    · rename_i hs; exact .publishClosed hs
    · rename_i hs
      have hs : s.isClosed = false := by simpa using hs
      split
      · rename_i hn
        refine .discard hs ?_
        simpa only [not_or] using hn
      · rename_i hn
        obtain ⟨ht, hf⟩ := not_or.1 hn
        exact .deliver hs (by simpa using hf) (Decidable.not_not.1 ht)
  | overflow =>
    simp only [act, reportOverflow]
    split
    · rename_i hs; exact .overflowOver hs
    · rename_i hs; exact .overflow (by simpa using hs)
  | endOfStream => exact acts_terminate s rfl
  | fault reason => exact acts_terminate s rfl

theorem moves_step (st : Step) (c : Consumer) (s : Slot) :
    Moves c s (step st c s).1 (step st c s).2.1 (step st c s).2.2 := by
  cases st with
  | start =>
    cases c with
    | idle =>
      cases hf : s.frame with
      | some f => simpa [step, start, hf] using Moves.hand (c := .idle) (by simp) hf
      | none =>
        cases ht : s.terminal with
        | some e => simpa [step, start, hf, ht] using Moves.refuse rfl hf ht
        | none =>
          cases ho : s.overflowPending with
          | true => simpa [step, start, hf, ht, ho] using Moves.overflow rfl hf ht ho
          | false => simpa [step, start, hf, ht, ho] using Moves.issue rfl hf ht ho
    | waiting => exact .still
    | gone => exact .still
  | wake =>
    cases c with
    | waiting =>
      cases hf : s.frame with
      | some f => simpa [step, take?, hf] using Moves.hand (c := .waiting) (by simp) hf
      | none =>
        cases ht : s.terminal with
        | some e => simpa [step, take?, hf, ht] using Moves.giveUp rfl hf ht
        | none => simpa [step, take?, hf, ht] using Moves.still
    | idle => exact .still
    | gone => exact .still
  | expire =>
    cases c with
    | waiting =>
      cases hf : s.frame with
      | some f => simpa [step, expire, take?, hf] using Moves.hand (c := .waiting) (by simp) hf
      | none =>
        cases ht : s.terminal with
        | some e => simpa [step, expire, take?, hf, ht] using Moves.giveUp rfl hf ht
        | none => simpa [step, expire, take?, hf, ht] using Moves.expire rfl hf ht
    | idle => exact .still
    | gone => exact .still
  | drop =>
    cases c with
    | idle => exact .drop rfl
    | waiting => exact .still
    | gone => exact .still
  | act a => exact .act (acts_act s a)

/-! ## Histories -/

/-- A history of a slot, with the consumer and the slot it leads to. -/
inductive Reaches : List Event → Consumer → Slot → Prop where
  | fresh : Reaches [] .idle {}
  | move {es : List Event} {c c' : Consumer} {s s' : Slot} {e : Event} (h : Reaches es c s)
    (hm : Moves c s e c' s') : Reaches (es ++ [e]) c' s'

theorem Reaches.run {es : List Event} {c : Consumer} {s : Slot} (h : Reaches es c s)
    (sts : List Step) :
    Reaches (es ++ (run sts c s).1) (run sts c s).2.1 (run sts c s).2.2 := by
  induction sts generalizing es c s with
  | nil => simpa [Slot.run] using h
  | cons st sts ih =>
    have := ih (h.move (moves_step st c s))
    simpa [Slot.run] using this

/-- Every run from the start is a history. -/
theorem reaches_run (sts : List Step) :
    Reaches (run sts .idle {}).1 (run sts .idle {}).2.1 (run sts .idle {}).2.2 := by
  simpa using Reaches.fresh.run sts

/-! ## Whole calls -/

/-- What a call of the consumer returned. -/
def Event.answer? : Event → Option (Except FrameError PublishedFrame)
  | .pulled r => some r
  | _ => none

/-- What a producer was told. -/
def Event.result? : Event → Option ActResult
  | .acted _ r => some r
  | _ => none

/-- A run that shows these results and these answers, and leads there. -/
def Runs (c : Consumer) (s : Slot) (results : List ActResult)
    (answers : List (Except FrameError PublishedFrame)) (c' : Consumer) (s' : Slot) : Prop :=
  ∃ sts, (run sts c s).1.filterMap Event.result? = results ∧
    (run sts c s).1.filterMap Event.answer? = answers ∧ (run sts c s).2 = (c', s')

theorem Runs.cons {c c₁ c' : Consumer} {s s₁ s' : Slot} {e : Event} {st : Step}
    {rs : List ActResult} {as : List (Except FrameError PublishedFrame)}
    (hst : step st c s = (e, c₁, s₁)) (h : Runs c₁ s₁ rs as c' s') :
    Runs c s (e.result?.toList ++ rs) (e.answer?.toList ++ as) c' s' := by
  obtain ⟨sts, hr, ha, hs⟩ := h
  refine ⟨st :: sts, ?_, ?_, ?_⟩
  · cases h : e.result? <;> simp [run, hst, h, hr]
  · cases h : e.answer? <;> simp [run, hst, h, ha]
  · simp only [run, hst]; exact hs

theorem runs_acts (as : List Act) (c : Consumer) (s : Slot) :
    Runs c s (acts as s).1 [] c (acts as s).2 := by
  induction as generalizing s with
  | nil => exact ⟨[], rfl, rfl, rfl⟩
  | cons a as ih =>
    have hst : step (.act a) c s = (.acted a (s.act a).1, c, (s.act a).2) := rfl
    exact .cons hst (ih _)

theorem runs_await (as : List Act) (s : Slot) :
    Runs .waiting s (await as s).1 [(await as s).2.1] .idle (await as s).2.2 := by
  induction as generalizing s with
  | nil =>
    have hst : step .expire .waiting s = (.pulled s.expire.1, .idle, s.expire.2) := rfl
    exact .cons hst ⟨[], rfl, rfl, rfl⟩
  | cons a as ih =>
    rcases ha : s.act a with ⟨r, s₁⟩
    have hact : step (.act a) .waiting s = (.acted a r, .waiting, s₁) := by simp only [step, ha]
    rcases ht : s₁.take? with ⟨answer | answer, s₂⟩
    · have hwake : step .wake .waiting s₁ = (.idle, .waiting, s₂) := by simp only [step, ht]
      simp only [await, ha, ht]
      exact .cons hact (.cons hwake (ih s₂))
    · have hwake : step .wake .waiting s₁ = (.pulled answer, .idle, s₂) := by simp only [step, ht]
      simp only [await, ha, ht]
      exact .cons hact (.cons hwake (runs_acts as .idle s₂))

/-- **A whole call is a run of steps**, with all that producers do during it. -/
theorem runs_pull (during : Option Nat → List Act) (s : Slot) :
    Runs .idle s (pull during s).1 [(pull during s).2.1] .idle (pull during s).2.2 := by
  rcases hs : s.start with ⟨_ | answer, s₁⟩
  · have hstart : step .start .idle s = (.issued s.nextTicket, .waiting, s₁) := by simp only [step, hs]
    simp only [pull, hs]
    exact .cons hstart (runs_await _ s₁)
  · have hstart : step .start .idle s = (.pulled answer, .idle, s₁) := by simp only [step, hs]
    simp only [pull, hs]
    exact .cons hstart (runs_acts _ .idle s₁)

end Slot
end FrameFeed
