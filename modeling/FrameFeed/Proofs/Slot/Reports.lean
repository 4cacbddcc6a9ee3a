import FrameFeed.Proofs.Slot.Showing
/-!
# Reports of lost frames

A producer reports that frames were lost, and the consumer is told so once. A slot keeps one flag for it;
`Hears` is what the flag means: a report was accepted, before the end of the stream, and the consumer was not
told since (`Untold`). The flag is read only where a call begins. Nothing else looks at it (`act_mark`,
`step_mark`), so a report that comes while the consumer waits leaves the wait as it is.
-/
namespace FrameFeed
namespace Slot

variable {es : List Event} {c c' : Consumer} {s s' : Slot} {e : Event}

/-! ## Reports in a history -/

/-- A producer reports that frames were lost. -/
def Event.reports : Event → Bool
  | .acted .overflow _ => true
  | _ => false

/-- The consumer is told that frames were lost. -/
def Event.tells : Event → Bool
  | .pulled (.error .overflow) => true
  | _ => false

/-- A producer ends the stream, if it is not over. -/
def Event.ends : Event → Bool
  | .acted a _ => a.cause?.isSome
  | _ => false

/-- A report was accepted, with no end of the stream before it, and the consumer was not told since. -/
def Untold (es : List Event) : Prop :=
  ∃ before report after, es = before ++ report :: after ∧ report.reports = true ∧
    before.any Event.ends = false ∧ after.any Event.tells = false

theorem untold_concat : Untold (es ++ [e]) ↔
    Untold es ∧ e.tells = false ∨ e.reports = true ∧ es.any Event.ends = false := by
  constructor
  · rintro ⟨before, report, after, hes, hreport, hbefore, hafter⟩
    rcases List.eq_nil_or_concat after with rfl | ⟨after, e', rfl⟩
    · obtain ⟨rfl, he⟩ := List.append_inj' hes rfl
      cases he
      exact .inr ⟨hreport, hbefore⟩
    · rw [List.concat_eq_append, ← List.cons_append, ← List.append_assoc] at hes
      obtain ⟨rfl, he⟩ := List.append_inj' hes rfl
      cases he
      rw [List.concat_eq_append, List.any_append, Bool.or_eq_false_iff] at hafter
      exact .inl ⟨⟨before, report, after, rfl, hreport, hbefore, hafter.1⟩, by simpa using hafter.2⟩
  · rintro (⟨⟨before, report, after, rfl, hreport, hbefore, hafter⟩, he⟩ | ⟨hreport, hbefore⟩)
    · exact ⟨before, report, after ++ [e], by simp, hreport, hbefore, by simp [hafter, he]⟩
    · exact ⟨es, e, [], rfl, hreport, hbefore, rfl⟩

/-! ## What the flag means -/

/-- The flag of a slot, and whether its stream is over, agree with its history. -/
structure Hears (es : List Event) (s : Slot) : Prop where
  ended : es.any Event.ends = s.terminal.isSome
  untold : s.overflowPending = true ↔ Untold es

theorem cause_ne_overflow (h : Keeps es c s) {e : FrameError} (he : s.terminal = some e) :
    e ≠ .overflow := by
  rcases h.cause e he with rfl | ⟨reason, rfl⟩ <;> exact nofun

namespace Hears

theorem fresh : Hears [] {} := by
  refine ⟨rfl, nofun, ?_⟩
  rintro ⟨before, report, after, hes, -⟩
  simp at hes

/-- An event that is neither a report that is accepted nor the consumer being told. -/
theorem keep (h : Hears es s) (hends : (s.terminal.isSome || e.ends) = s'.terminal.isSome)
    (hr : e.reports = true → s.terminal.isSome = true) (htells : e.tells = false)
    (hs : s'.overflowPending = s.overflowPending) : Hears (es ++ [e]) s' := by
  refine ⟨by simpa [h.ended] using hends, ?_⟩
  rw [untold_concat, hs, h.untold, h.ended, htells]
  constructor
  · exact fun huntold => .inl ⟨huntold, rfl⟩
  · rintro (⟨huntold, -⟩ | ⟨hreport, hopen⟩)
    · exact huntold
    · rw [hr hreport] at hopen
      cases hopen

theorem acts (h : Hears es s) {a : Act} {r : ActResult} (ha : Acts s a r s') :
    Hears (es ++ [.acted a r]) s' := by
  cases ha with
  | overflow hs =>
    refine ⟨by simp [h.ended, hs, Event.ends, Act.cause?], fun _ => ?_, fun _ => rfl⟩
    exact untold_concat.2 (.inr ⟨rfl, by rw [h.ended, hs]; rfl⟩)
  | overflowOver hs => exact h.keep (Bool.or_false _) (fun _ => hs) rfl rfl
  | endOver _ hs => exact h.keep (by rw [hs]; rfl) (fun _ => hs) rfl rfl
  | @finish a e ha =>
    have hends : (Event.acted a .done).ends = true := by
      show a.cause?.isSome = true
      rw [ha]; rfl
    refine h.keep (by rw [hends, Bool.or_true]; rfl) ?_ rfl rfl
    cases a with
    | overflow => cases ha
    | poll | look | publish | endOfStream | fault => exact nofun
  | _ => exact h.keep (Bool.or_false _) nofun rfl rfl

theorem moves (h : Hears es s) (hk : Keeps es c s) (hm : Moves c s e c' s') : Hears (es ++ [e]) s' := by
  cases hm with
  | act ha => exact h.acts ha
  | refuse _ _ ht | giveUp _ _ ht =>
    have hne := cause_ne_overflow hk ht
    refine h.keep (Bool.or_false _) nofun ?_ rfl
    unfold Event.tells
    split
    · rename_i heq
      cases heq
      exact absurd rfl hne
    · rfl
  | overflow _ _ ht =>
    refine ⟨by simp [h.ended, ht, Event.ends], nofun, fun huntold => ?_⟩
    rcases untold_concat.1 huntold with ⟨-, htold⟩ | ⟨hreport, -⟩
    · cases htold
    · cases hreport
  | _ => exact h.keep (Bool.or_false _) nofun rfl rfl

end Hears

theorem Reaches.hears (h : Reaches es c s) : Hears es s := by
  induction h with
  | fresh => exact .fresh
  | move h hm ih => exact ih.moves h.keeps hm

/-! ## Who looks at the flag -/

/-- The slot with another flag and another count of reports. -/
def mark (pending : Bool) (reports : Nat) (s : Slot) : Slot :=
  { s with overflowPending := pending, stats := { s.stats with overflows := reports } }

/-- No producer can tell. -/
theorem act_mark (a : Act) (b : Bool) (n : Nat) (s : Slot) :
    ∃ b' n', (s.mark b n).act a = ((s.act a).1, (s.act a).2.mark b' n') := by
  cases a with
  | look => exact ⟨b, n, rfl⟩
  | poll =>
    refine ⟨b, n, ?_⟩
    by_cases hs : s.closed = true ∨ s.terminal.isSome = true
    · simp [act, poll, isClosed, mark, hs]
    · cases hr : s.requested with
      | none => simp [act, poll, isClosed, mark, hs, hr]
      | some t => by_cases hc : s.claimed = some t <;> simp [act, poll, isClosed, mark, hs, hr, hc]
  | publish t m d =>
    refine ⟨b, n, ?_⟩
    by_cases hs : s.closed = true ∨ s.terminal.isSome = true
    · simp [act, publish, isClosed, mark, hs]
    · by_cases ht : ¬(s.requested = some t ∨ s.withdrawn = some t) ∨ s.frame.isSome = true
      · simp only [act, publish, isClosed, mark, Bool.or_eq_true, hs, ht, if_true, if_false]
      · simp only [act, publish, isClosed, mark, Bool.or_eq_true, hs, ht, if_false]
        rfl
  | overflow =>
    by_cases ht : s.terminal.isSome = true
    · exact ⟨b, n, by simp [act, reportOverflow, mark, ht]⟩
    · exact ⟨true, n + 1, by simp [act, reportOverflow, mark, ht]⟩
  | endOfStream | fault =>
    refine ⟨b, n, ?_⟩
    by_cases ht : s.terminal.isSome = true
    · simp only [act, terminate, mark, ht, if_true]
    · simp only [act, terminate, mark, ht]
      rfl

theorem acts_mark (as : List Act) (b : Bool) (n : Nat) (s : Slot) :
    (acts as (s.mark b n)).1 = (acts as s).1 := by
  induction as generalizing b n s with
  | nil => rfl
  | cons a as ih =>
    obtain ⟨b', n', hact⟩ := act_mark a b n s
    simp only [acts, hact, ih]

/-- Nor can the consumer, but where its call begins. -/
theorem step_mark (st : Step) (hst : c = .idle → st ≠ .start) (b : Bool) (n : Nat) (s : Slot) :
    ∃ b' n', step st c (s.mark b n) =
      ((step st c s).1, (step st c s).2.1, (step st c s).2.2.mark b' n') := by
  cases st with
  | start =>
    cases c with
    | idle => exact absurd rfl (hst rfl)
    | waiting | gone => exact ⟨b, n, rfl⟩
  | wake =>
    refine ⟨b, n, ?_⟩
    cases c with
    | waiting => cases hf : s.frame <;> cases ht : s.terminal <;> simp [step, take?, mark, hf, ht]
    | idle | gone => rfl
  | expire =>
    refine ⟨b, n, ?_⟩
    cases c with
    | waiting => cases hf : s.frame <;> cases ht : s.terminal <;> simp [step, expire, take?, mark, hf, ht]
    | idle | gone => rfl
  | drop => cases c <;> exact ⟨b, n, rfl⟩
  | act a =>
    obtain ⟨b', n', hact⟩ := act_mark a b n s
    exact ⟨b', n', by simp only [step, hact]⟩

/-! ## A wait -/

/-- The events of a wait: up to the first answer that the consumer gets, and with it. -/
def untilAnswer : List Event → List Event
  | [] => []
  | e :: es => if e.answer?.isSome then [e] else e :: untilAnswer es

/-- A wait goes on, or ends with a frame, the cause of the end of the stream, or the deadline. -/
theorem Moves.of_waiting (hm : Moves .waiting s e c' s') :
    e.answer? = none ∧ c' = .waiting ∨ (∃ f, e = .pulled (.ok f)) ∨
      (∃ e', s.terminal = some e' ∧ e = .pulled (.error e')) ∨ e = .pulled (.error .timeout) := by
  cases hm with
  | still | act => exact .inl ⟨rfl, rfl⟩
  | hand => exact .inr (.inl ⟨_, rfl⟩)
  | giveUp _ _ ht => exact .inr (.inr (.inl ⟨_, ht, rfl⟩))
  | expire => exact .inr (.inr (.inr rfl))
  | refuse hc | overflow hc | issue hc | drop hc => cases hc

theorem untilAnswer_mark (sts : List Step) (b : Bool) (n : Nat) (s : Slot) :
    untilAnswer (run sts .waiting (s.mark b n)).1 = untilAnswer (run sts .waiting s).1 := by
  induction sts generalizing b n s with
  | nil => rfl
  | cons st sts ih =>
    obtain ⟨b', n', hstep⟩ := step_mark (c := .waiting) st nofun b n s
    rw [run_cons, run_cons, hstep]
    simp only [untilAnswer]
    split
    · rfl
    · rename_i hnone
      rcases (moves_step st .waiting s).of_waiting with ⟨-, hwaiting⟩ | ⟨f, he⟩ | ⟨e', -, he⟩ | he
      · rw [hwaiting, ih]
      all_goals
        rw [he] at hnone
        exact absurd rfl hnone

/-- A wait never ends with the consumer being told of lost frames. -/
theorem Reaches.answer_of_waiting (h : Reaches es .waiting s) (sts : List Step) :
    (answers (Slot.run sts .waiting s).1).head? ≠ some (.error .overflow) := by
  induction sts generalizing es s with
  | nil => exact nofun
  | cons st sts ih =>
    have hm := moves_step st .waiting s
    rw [run_cons]
    rcases hm.of_waiting with ⟨hnone, hwaiting⟩ | ⟨f, he⟩ | ⟨e', ht, he⟩ | he
    · rw [answers, List.filterMap_cons_none hnone]
      rw [hwaiting] at hm ⊢
      exact ih (h.move hm)
    · rw [he]
      exact nofun
    · rw [he]
      rintro heq
      cases heq
      exact cause_ne_overflow h.keeps ht rfl
    · rw [he]
      exact nofun

/-! ## Being told -/

/-- A call that finds a report is answered at once. -/
theorem start_of_pending (hf : s.frame = none) (ht : s.terminal = none) (ho : s.overflowPending = true) :
    step .start .idle s = (.pulled (.error .overflow), .idle, { s with overflowPending := false }) := by
  simp only [step, start, hf, ht, ho, if_true]

/-- The first answer after a call begins is that frames were lost exactly if the call finds a report. -/
theorem Reaches.answer_overflow_iff (h : Reaches es .idle s) (later : List Step) :
    (answers (Slot.run (.start :: later) .idle s).1).head? = some (.error .overflow) ↔
      s.frame = none ∧ s.terminal = none ∧ s.overflowPending = true := by
  rw [run_cons]
  cases hf : s.frame with
  | some f =>
    have hstep : (step .start .idle s).1 = .pulled (.ok f) := by simp only [step, start, hf]
    rw [hstep]
    refine iff_of_false (fun heq => ?_) (fun hpending => ?_)
    · cases heq
    · cases hpending.1
  | none =>
    cases ht : s.terminal with
    | some e =>
      have hne := cause_ne_overflow h.keeps ht
      have hstep : (step .start .idle s).1 = .pulled (.error e) := by simp only [step, start, hf, ht]
      rw [hstep]
      refine iff_of_false (fun heq => ?_) (fun hpending => ?_)
      · cases heq
        exact hne rfl
      · cases hpending.2.1
    | none =>
      cases ho : s.overflowPending with
      | true =>
        rw [start_of_pending hf ht ho]
        exact iff_of_true rfl ⟨rfl, rfl, rfl⟩
      | false =>
        have hstep : step .start .idle s = (.issued s.nextTicket, .waiting, s.start.2) := by
          simp [step, start, hf, ht, ho]
        rw [hstep]
        have hm := moves_step .start .idle s
        rw [hstep] at hm
        refine iff_of_false ((h.move hm).answer_of_waiting later) (fun hpending => ?_)
        cases hpending.2.2

/-- A move that tells the consumer of lost frames finds a report. -/
theorem Moves.pending_of_tells (hm : Moves c s e c' s') (hk : Keeps es c s) (he : e.tells = true) :
    s.overflowPending = true := by
  cases hm with
  | overflow _ _ _ ho => exact ho
  | @refuse e _ _ ht | @giveUp e _ _ ht =>
    have hne := cause_ne_overflow hk ht
    cases e with
    | overflow => exact absurd rfl hne
    | _ => cases he
  | _ => cases he

/-- An event of a history is a move from where the events before it lead. -/
theorem Reaches.exists_move {before after : List Event} (h : Reaches (before ++ e :: after) c s) :
    ∃ c₁ s₁ c₂ s₂, Reaches before c₁ s₁ ∧ Moves c₁ s₁ e c₂ s₂ := by
  induction after using List.reverseRecOn generalizing c s with
  | nil =>
    generalize hes : before ++ [e] = es at h
    cases h with
    | fresh => simp at hes
    | move h hm =>
      obtain ⟨rfl, he⟩ := List.append_inj' hes rfl
      cases he
      exact ⟨_, _, _, _, h, hm⟩
  | append_singleton after e' ih =>
    generalize hes : before ++ e :: (after ++ [e']) = es at h
    rw [← List.cons_append, ← List.append_assoc] at hes
    cases h with
    | fresh => simp at hes
    | move h hm =>
      obtain ⟨rfl, -⟩ := List.append_inj' hes rfl
      exact ih h

/-- Between two times that the consumer is told there is a report that was accepted. -/
theorem Reaches.exists_report {past between later : List Event} {e e' : Event}
    (h : Reaches (past ++ e :: between ++ e' :: later) c s) (he : e.tells = true) (he' : e'.tells = true) :
    ∃ before report after, between = before ++ report :: after ∧ report.reports = true ∧
      (past ++ e :: before).any Event.ends = false := by
  obtain ⟨c₁, s₁, c₂, s₂, hreach, hm⟩ := h.exists_move
  obtain ⟨before, report, after, hes, hreport, hbefore, hafter⟩ :=
    hreach.hears.untold.1 (hm.pending_of_tells hreach.keeps he')
  rcases List.append_eq_append_iff.1 hes with ⟨gap, rfl, hgap⟩ | ⟨gap, rfl, hgap⟩
  · cases gap with
    | nil =>
      -- the report would be the first of the two events
      rw [List.nil_append] at hgap
      cases hgap
      cases e with
      | acted => cases he
      | pulled | issued | dropped | idle => cases hreport
    | cons x gap =>
      rw [List.cons_append, List.cons.injEq] at hgap
      obtain ⟨rfl, rfl⟩ := hgap
      exact ⟨gap, report, after, rfl, hreport, hbefore⟩
  · cases gap with
    | nil =>
      rw [List.nil_append] at hgap
      cases hgap
      cases e with
      | acted => cases he
      | pulled | issued | dropped | idle => cases hreport
    | cons x gap =>
      -- the consumer was told after the report
      rw [List.cons_append, List.cons.injEq] at hgap
      obtain ⟨-, rfl⟩ := hgap
      simp [he] at hafter

/-- **Lost frames are reported once, and no report is lost.** After any run: a call of the consumer is
answered by an overflow, whatever happens during it, exactly if no frame is held when it begins, the stream is
not over, and a report was accepted since the consumer was told last. Such a call returns at once; it issues
no ticket, and nothing of the slot changes but that the report is told, which makes no difference to any
producer, so that a frame for a withdrawn ticket is taken as before. A report that comes while the consumer
waits leaves all that happens until the wait ends as it is. Between two overflows there is always another
report, so any number of reports between them lead to one. -/
theorem overflow_told_once (sts : List Step) :
    let es := (run sts .idle {}).1
    let c := (run sts .idle {}).2.1
    let s := (run sts .idle {}).2.2
    let told : Slot := { s with overflowPending := false }
    (c = .idle → ∀ later,
      ((answers (run (.start :: later) c s).1).head? = some (.error .overflow) ↔
        s.frame = none ∧ s.terminal = none ∧ Untold es)) ∧
      (c = .idle → s.frame = none → s.terminal = none → Untold es →
        step .start c s = (.pulled (.error .overflow), .idle, told) ∧
          ∀ as, (acts as told).1 = (acts as s).1) ∧
      (c = .waiting → ∀ later,
        (run (.act .overflow :: later) c s).1.head? = some (.acted .overflow .done) ∧
          untilAnswer (run (.act .overflow :: later) c s).1.tail = untilAnswer (run later c s).1) ∧
      ∀ past e between e' later, es = past ++ e :: between ++ e' :: later → e.tells = true →
        e'.tells = true → ∃ before report after, between = before ++ report :: after ∧
          report.reports = true ∧ (past ++ e :: before).any Event.ends = false := by
  intro es c s told
  have h : Reaches es c s := reaches_run sts
  refine ⟨?_, ?_, ?_, ?_⟩
  · intro hc later
    rw [hc] at h ⊢
    rw [h.answer_overflow_iff, h.hears.untold]
  · intro hc hf ht huntold
    rw [hc]
    refine ⟨start_of_pending hf ht (h.hears.untold.2 huntold), fun as => ?_⟩
    exact acts_mark as false s.stats.overflows s
  · intro hc later
    rw [hc, run_cons]
    refine ⟨rfl, ?_⟩
    show untilAnswer (run later .waiting s.reportOverflow).1 = _
    by_cases ht : s.terminal.isSome = true
    · rw [reportOverflow, if_pos ht]
    · rw [reportOverflow, if_neg ht]
      exact untilAnswer_mark later true (s.stats.overflows + 1) s
  · intro past e between e' later hes he he'
    rw [hes] at h
    exact h.exists_report he he'

/-- Two reports come while the consumer waits, which then times out. The next call tells of both at once, and
the frame for the request that timed out is still taken after it. -/
theorem overflow_told_once_after_timeout :
    let sts : List Step := [.start, .act .overflow, .act .overflow, .expire]
    let s := (run sts .idle {}).2.2
    let told : Slot := { s with overflowPending := false }
    step .start .idle s = (.pulled (.error .overflow), .idle, told) ∧
      (acts [.publish 1 default [7]] s).1 = [.published .delivered] ∧
      (acts [.publish 1 default [7]] told).1 = [.published .delivered] ∧
      answers (run (sts ++ [.start, .start, .expire]) .idle {}).1 =
        [.error .timeout, .error .overflow, .error .timeout] := by
  intro sts s told
  have huntold : Untold (run sts .idle {}).1 :=
    ⟨[.issued 1], .acted .overflow .done, [.acted .overflow .done, .pulled (.error .timeout)],
      rfl, rfl, rfl, rfl⟩
  obtain ⟨-, htold, -⟩ := overflow_told_once sts
  obtain ⟨hstep, hacts⟩ := htold rfl rfl rfl huntold
  have hpublish : (acts [.publish 1 default [7]] s).1 = [.published .delivered] := rfl
  exact ⟨hstep, hpublish, (hacts _).trans hpublish, rfl⟩

end Slot
end FrameFeed
