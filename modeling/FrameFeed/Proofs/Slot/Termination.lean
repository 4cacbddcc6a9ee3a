import FrameFeed.Proofs.Slot.Delivery
/-!
# The end of a stream

The first cause that a producer gives for the end of the stream is kept for good. From then on no
producer is heard and no ticket is issued; the consumer gets the frame that is held, if there is one,
and then that cause from every call (`run_of_terminal`). A slot that is seen to be over holds no frame
(`Settled`), so it is seen so for ever (`Settled.state_run`).
-/
namespace FrameFeed

/-- The stream is seen to be over. -/
def SlotState.isFinal : SlotState → Bool
  | endOfStream | faulted => true
  | waiting | ready => false

namespace Slot

variable {c c' : Consumer} {s s' : Slot} {e : FrameError} {ev : Event}

/-! ## What is left to hear -/

/-- What a producer is told once the stream is over. -/
def Act.farewell : Act → ActResult
  | .poll => .polled .closed
  | .look => .looked true
  | .publish .. => .published .closed
  | .overflow | .endOfStream | .fault _ => .done

/-- If a producer acted, it was told that the stream is over. -/
def Event.TurnsAway : Event → Prop
  | .acted a r => r = a.farewell
  | _ => True

/-- What a call of the consumer comes to once the stream is over: the frame that is held, or the cause. -/
def due (e : FrameError) (s : Slot) : Except FrameError PublishedFrame :=
  match s.frame with
  | some f => .ok f
  | none => .error e

/-- What the calls of the consumer returned. -/
def answers (es : List Event) : List (Except FrameError PublishedFrame) := es.filterMap Event.answer?

theorem isClosed_of_terminal (ht : s.terminal = some e) : s.isClosed = true := by
  simp [isClosed, ht]

/-- Once the stream is over, producers are turned away and change nothing. -/
theorem Acts.of_terminal {a : Act} {r : ActResult} (ha : Acts s a r s') (ht : s.terminal = some e) :
    r = a.farewell ∧ s' = s := by
  have hclosed := isClosed_of_terminal ht
  cases ha with
  | pollClosed | publishClosed | overflowOver => exact ⟨rfl, rfl⟩
  | look => exact ⟨congrArg _ hclosed, rfl⟩
  | endOver ha => cases a <;> first | exact ⟨rfl, rfl⟩ | cases ha
  | pollNothing hs | claim hs | discard hs | deliver hs => rw [hclosed] at hs; cases hs
  | overflow hs | finish _ hs => rw [ht] at hs; cases hs

/-- Once the stream is over, a move returns what is due or leaves the frame where it is. -/
theorem Moves.of_terminal (hm : Moves c s ev c' s') (ht : s.terminal = some e) :
    s'.terminal = some e ∧ ev.ticket? = none ∧ ev.TurnsAway ∧
      (ev.answer? = none ∧ s'.frame = s.frame ∨ ev.answer? = some (due e s) ∧ s'.frame = none) := by
  cases hm with
  | still => exact ⟨ht, rfl, trivial, .inl ⟨rfl, rfl⟩⟩
  | hand _ hf => exact ⟨ht, rfl, trivial, .inr ⟨by rw [due, hf]; rfl, rfl⟩⟩
  | refuse _ hf ht' | giveUp _ hf ht' =>
    rw [ht] at ht'; cases ht'
    exact ⟨ht, rfl, trivial, .inr ⟨by rw [due, hf]; rfl, hf⟩⟩
  | overflow _ _ ht' | issue _ _ ht' | expire _ _ ht' => rw [ht] at ht'; cases ht'
  | drop => exact ⟨ht, rfl, trivial, .inl ⟨rfl, rfl⟩⟩
  | act ha =>
    obtain ⟨hr, rfl⟩ := ha.of_terminal ht
    exact ⟨ht, rfl, hr, .inl ⟨rfl, rfl⟩⟩

theorem run_cons (st : Step) (sts : List Step) (c : Consumer) (s : Slot) :
    run (st :: sts) c s =
      ((step st c s).1 :: (run sts (step st c s).2.1 (step st c s).2.2).1,
        (run sts (step st c s).2.1 (step st c s).2.2).2) := rfl

/-- After the stream is over: the cause stays, no ticket is issued, producers are turned away, and the
calls return the frame that is held and then the cause. -/
theorem run_of_terminal (sts : List Step) (c : Consumer) (ht : s.terminal = some e) :
    (run sts c s).2.2.terminal = some e ∧ tickets (run sts c s).1 = [] ∧
      (∀ ev ∈ (run sts c s).1, ev.TurnsAway) ∧
      answers (run sts c s).1 <+:
        s.frame.toList.map .ok ++ List.replicate (answers (run sts c s).1).length (.error e) := by
  induction sts generalizing c s with
  | nil => exact ⟨ht, rfl, List.forall_mem_nil _, List.nil_prefix⟩
  | cons st sts ih =>
    obtain ⟨ht', hticket, haway, hanswer⟩ := (moves_step st c s).of_terminal ht
    obtain ⟨hterminal, htickets, haways, hanswers⟩ := ih (step st c s).2.1 ht'
    rw [run_cons]
    refine ⟨hterminal, ?_, List.forall_mem_cons.2 ⟨haway, haways⟩, ?_⟩
    · rw [tickets, List.filterMap_cons_none hticket]; exact htickets
    · generalize (run sts (step st c s).2.1 (step st c s).2.2).1 = es at hanswers ⊢
      rcases hanswer with ⟨hnone, hframe⟩ | ⟨hsome, hframe⟩
      · have hcons : answers ((step st c s).1 :: es) = answers es := List.filterMap_cons_none hnone
        rw [hcons, ← hframe]; exact hanswers
      · have hcons : answers ((step st c s).1 :: es) = due e s :: answers es :=
          List.filterMap_cons_some hsome
        rw [hframe] at hanswers
        rw [hcons, List.length_cons, due]
        cases s.frame with
        | some f =>
          refine List.cons_prefix_cons.2 ⟨rfl, hanswers.trans ?_⟩
          rw [List.replicate_succ']
          exact List.prefix_append _ _
        | none => exact List.cons_prefix_cons.2 ⟨rfl, hanswers⟩

/-- A step that begins a call of the consumer, or that looks for the answer to one that waits. -/
def Step.Calls : Step → Consumer → Prop
  | .start, .idle | .wake, .waiting | .expire, .waiting => True
  | _, _ => False

/-- Once the stream is over no call waits any longer. -/
theorem step_of_terminal {st : Step} (hst : st.Calls c) (ht : s.terminal = some e) :
    (step st c s).1 = .pulled (due e s) ∧ (step st c s).2.1 = .idle := by
  unfold due
  cases st <;> cases c <;> cases hst
  all_goals cases hf : s.frame <;> simp [step, start, take?, expire, hf, ht]

/-! ## What can be seen of it -/

/-- A slot that is seen to be over is so: it holds no frame, and its state is that of the cause. -/
def Settled (s : Slot) : Prop :=
  s.state.isFinal = true → s.frame = none ∧ ∃ e, s.terminal = some e ∧ s.state = terminalState e

theorem Acts.settled {a : Act} {r : ActResult} (ha : Acts s a r s') (h : s.Settled) : s'.Settled := by
  cases ha with
  | deliver => exact nofun
  | finish =>
    intro hfinal
    by_cases hf : s.frame.isSome = true
    · simp only [hf, if_true] at hfinal
      rw [(h hfinal).1] at hf; cases hf
    · exact ⟨by simpa using hf, _, rfl, if_neg hf⟩
  | _ => exact h

theorem Moves.settled (hm : Moves c s ev c' s') (h : s.Settled) : s'.Settled := by
  cases hm with
  | hand | issue => exact nofun
  | refuse _ hf ht | giveUp _ hf ht => exact fun _ => ⟨hf, _, ht, rfl⟩
  | act ha => exact ha.settled h
  | _ => exact h

theorem Reaches.settled {es : List Event} (h : Reaches es c s) : s.Settled := by
  induction h with
  | fresh => exact nofun
  | move _ hm ih => exact hm.settled ih

theorem Moves.state_of_final (hm : Moves c s ev c' s') (h : s.Settled) (hfinal : s.state.isFinal = true) :
    s'.state = s.state := by
  obtain ⟨hframe, e, ht, hstate⟩ := h hfinal
  cases hm with
  | hand _ hf => rw [hframe] at hf; cases hf
  | refuse _ _ ht' | giveUp _ _ ht' => rw [ht] at ht'; cases ht'; exact hstate.symm
  | issue _ _ ht' => rw [ht] at ht'; cases ht'
  | act ha => rw [(ha.of_terminal ht).2]
  | _ => rfl

/-- What is seen to be over is seen so for ever. -/
theorem Settled.state_run (sts : List Step) (c : Consumer) (h : s.Settled)
    (hfinal : s.state.isFinal = true) : (run sts c s).2.2.state = s.state := by
  induction sts generalizing c s with
  | nil => rfl
  | cons st sts ih =>
    have hm := moves_step st c s
    have hstate := hm.state_of_final h hfinal
    rw [← hstate]
    exact ih _ (hm.settled h) (hstate ▸ hfinal)

/-! ## The end -/

/-- A producer ends the stream, for the first time. -/
theorem act_of_cause {a : Act} (ha : a.cause? = some e) (hopen : s.terminal = none) :
    (s.act a).2.terminal = some e ∧ (s.act a).2.frame = s.frame := by
  cases a <;> cases ha <;> simp [act, terminate, hopen]

/-- **The end is final.** A producer ends a stream that was not over, after any run. Frames that were
delivered before and not yet handed out are at most one. Whatever happens next, the calls of the
consumer return that frame, if there is one, and then the cause, none of them waits, no ticket is issued,
every producer is turned away, the cause stays, and so does the state once it shows the end. -/
theorem terminated_for_good (before after more : List Step) {a : Act} {e : FrameError}
    (ha : a.cause? = some e) (hopen : (run before .idle {}).2.2.terminal = none) :
    let past := (run before .idle {}).1
    let c := (run before .idle {}).2.1
    let s := (run before .idle {}).2.2
    let es := (run after c (s.act a).2).1
    let c' := (run after c (s.act a).2).2.1
    let s' := (run after c (s.act a).2).2.2
    (∃ held : List PublishedFrame, held.length ≤ 1 ∧ deliveries past = returns past ++ held ∧
        answers es <+: held.map .ok ++ List.replicate (answers es).length (.error e)) ∧
      (∀ st : Step, st.Calls c' →
        (step st c' s').1 = .pulled (due e s') ∧ (step st c' s').2.1 = .idle) ∧
      tickets es = [] ∧ (∀ ev ∈ es, ev.TurnsAway) ∧ s'.terminal = some e ∧ s'.isClosed = true ∧
      s.state.isFinal = false ∧
      (s'.state.isFinal = true → s'.state = terminalState e ∧ (run more c' s').2.2.state = s'.state) := by
  intro past c s es c' s'
  have hpast : Reaches past c s := reaches_run before
  obtain ⟨hterminal, hframe⟩ := act_of_cause ha hopen
  have hend : Reaches (past ++ [.acted a (s.act a).1]) c (s.act a).2 := hpast.move (.act (acts_act s a))
  obtain ⟨hterminal', htickets, haway, hanswers⟩ := run_of_terminal after c hterminal
  refine ⟨⟨s.frame.toList, ?_, hpast.deliveries_eq, ?_⟩, ?_, htickets, haway, hterminal',
    isClosed_of_terminal hterminal', ?_, ?_⟩
  · cases s.frame <;> simp
  · rw [← hframe]; exact hanswers
  · exact fun st hst => step_of_terminal hst hterminal'
  · by_contra hfinal
    obtain ⟨-, e', ht, -⟩ := hpast.settled (by simpa using hfinal)
    rw [hopen] at ht; cases ht
  · intro hfinal
    have hsettled : s'.Settled := (hend.run after).settled
    obtain ⟨-, e', ht, hstate⟩ := hsettled hfinal
    rw [hterminal'] at ht; cases ht
    exact ⟨hstate, hsettled.state_run more c' hfinal⟩

/-- A late frame is held when a producer fails; the consumer gets it, then hears of the failure, though
another producer ends the stream after it. -/
theorem terminated_late_frame :
    let before : List Step := [.start, .expire, .act (.publish 1 default [7])]
    let after : List Step := [.act .endOfStream, .start, .act .overflow, .start, .act .poll, .start]
    let es := (run after .idle ((run before .idle {}).2.2.act (.fault "lost")).2).1
    (run before .idle {}).2.2.terminal = none ∧ tickets es = [] ∧
      answers es = [.ok ⟨default, [7], 1⟩, .error (.faulted "lost"), .error (.faulted "lost")] ∧
      (run after .idle ((run before .idle {}).2.2.act (.fault "lost")).2).2.2.terminal =
        some (.faulted "lost") := by
  intro before after es
  obtain ⟨-, -, htickets, -, hterminal, -⟩ :=
    terminated_for_good before after [] (a := .fault "lost") rfl rfl
  exact ⟨rfl, htickets, rfl, hterminal⟩

end Slot
end FrameFeed
