import FrameFeed.Feed.Producer
import FrameFeed.Proofs.Slot.Moves
/-!
# A source that a producer feeds

A producer of a pattern works on a thread of its own. It looks for a request, publishes a frame and may end the
stream, each in a step of its own under the lock of the slot (`Worker.step`), and whoever pulls from the source may
act between any two of them (`Feeding.run`). When a step comes is left open: a producer takes none while it sleeps,
and none any more once it is dead. `Production.turn` is such steps in a row (`steps_of_turn`).

However the two take turns, the pulls come to what they come to on a source of the pattern that renders the frames
itself (`fed_as_rendered`), except that a producer told to deliver no frame at all delivers one. `Feeding.Phase`
says where the two can be between two steps; every step keeps to it (`Feeding.At.step`).
-/
namespace FrameFeed

/-- A producer whose next frame has a time has a period. -/
theorem Producer.hasPeriod_of_keepsTime {p : Producer} {clock : Nat} (h : p.keepsTime clock = true) :
    p.hasPeriod = true := by
  simp only [keepsTime, Option.all_eq_true_iff_get, Option.any_eq_true, decide_eq_true_eq] at h
  simp only [hasPeriod, Option.all_eq_true_iff_get, Option.any_eq_true, decide_eq_true_eq]
  intro hrate
  obtain ⟨period, hperiod, hdue⟩ := h hrate
  exact ⟨period, hperiod, by omega⟩

/-! ## The producer, step by step -/

/-- What a producer is about. -/
inductive Task where
  | seek
  /-- It has claimed a ticket and is to publish the frame. -/
  | answer (ticket : Nat)
  /-- It is to end the stream. -/
  | finish
deriving DecidableEq

structure Worker where
  production : Production
  task : Task := .seek
deriving DecidableEq

namespace Worker

/-- One step of a producer under the lock of the slot. -/
def step (w : Worker) (s : Slot) : Worker × Slot :=
  let p := w.production
  if p.stopped then (w, s)
  else
    match w.task with
    | .seek =>
      match s.poll with
      | (.closed, s) => (⟨{ p with stopped := true }, .seek⟩, s)
      | (.timedOut, s) => (w, s)
      | (.ready ticket, s) => (⟨p, .answer ticket⟩, s)
    | .answer ticket =>
      let data := p.producer.pattern.render p.sequence p.producer.metadata
      let (outcome, s) := s.publish ticket p.producer.metadata data
      let p := { p with
        sequence := p.sequence + 1
        delivered := if outcome = Publish.delivered then p.delivered + 1 else p.delivered }
      if outcome = Publish.closed then (⟨{ p with stopped := true }, .seek⟩, s)
      else if p.producer.frames.any (· ≤ p.delivered) then (⟨p, .finish⟩, s)
      else (⟨p, .seek⟩, s)
    | .finish => (⟨{ p with stopped := true }, .seek⟩, s.terminate .endOfStream)

/-- Some steps in a row. -/
def steps : Nat → Worker → Slot → Worker × Slot
  | 0, w, s => (w, s)
  | n + 1, w, s => steps n (w.step s).1 (w.step s).2

variable {w : Worker} {s : Slot} {t : Nat}

theorem step_stopped (h : w.production.stopped = true) : w.step s = (w, s) := by
  rw [step, if_pos h]

theorem step_claim (h : w.production.stopped = false) (ht : w.task = .seek) (hs : s.isClosed = false)
    (hr : s.requested = some t) (hc : s.claimed ≠ some t) :
    w.step s = (⟨w.production, .answer t⟩, { s with claimed := some t }) := by
  have hpoll : s.poll = (.ready t, { s with claimed := some t }) := by simp [Slot.poll, hs, hr, hc]
  rw [step, h, ht, hpoll]
  rfl

theorem step_finish (h : w.production.stopped = false) (ht : w.task = .finish) :
    w.step s = (⟨{ w.production with stopped := true }, .seek⟩, s.terminate .endOfStream) := by
  rw [step, h, ht]
  rfl

/-- A turn of a producer that stays alive is two or three of its steps in a row. -/
theorem steps_of_turn (p : Production) (s : Slot) {clock : Nat}
    (hkeeps : p.stopped = false → p.producer.keepsTime clock = true) :
    ∃ n, 2 ≤ n ∧ steps n ⟨p, .seek⟩ s = (⟨(p.turn s clock).1, .seek⟩, (p.turn s clock).2) := by
  by_cases hstopped : p.stopped = true
  · refine ⟨2, Nat.le_refl 2, ?_⟩
    rw [steps, step_stopped hstopped, steps, step_stopped hstopped, Production.turn, if_pos hstopped]
    rfl
  have hgoing : p.stopped = false := by simpa using hstopped
  have htime : p.producer.keepsTime clock = true := hkeeps hgoing
  have hperiod : p.producer.hasPeriod = true := Producer.hasPeriod_of_keepsTime htime
  cases hp : s.poll with
  | mk found s' =>
    have hmoves : Slot.Acts s .poll (.polled found) s' := by simpa [Slot.act, hp] using Slot.acts_act s .poll
    cases hmoves with
    | pollClosed =>
      refine ⟨2, Nat.le_refl 2, ?_⟩
      simp [steps, step, Production.turn, hgoing, hperiod, hp]
    | pollNothing =>
      refine ⟨2, Nat.le_refl 2, ?_⟩
      simp [steps, step, Production.turn, hgoing, hperiod, hp]
    | @claim t =>
      cases hpublish : Slot.publish t p.producer.metadata
          (p.producer.pattern.render p.sequence p.producer.metadata) { s with claimed := some t } with
      | mk outcome s'' =>
        by_cases hclosed : outcome = .closed
        · refine ⟨2, Nat.le_refl 2, ?_⟩
          simp [steps, step, Production.turn, hgoing, hperiod, htime, hp, hpublish, hclosed]
        by_cases hover : p.producer.frames.any
            (· ≤ if outcome = .delivered then p.delivered + 1 else p.delivered) = true
        · refine ⟨3, by decide, ?_⟩
          simp [steps, step, Production.turn, hgoing, hperiod, htime, hp, hpublish, hclosed, hover]
        · refine ⟨2, Nat.le_refl 2, ?_⟩
          simp [steps, step, Production.turn, hgoing, hperiod, htime, hp, hpublish, hclosed, hover]

end Worker

/-! ## A producer and a source -/

/-- What a pull comes to, and what the source shows then. -/
structure Pulled where
  result : Except FrameError Unit
  shown : Except FrameError View

/-- A source, where its owner is in a call, and the producer. -/
structure Feeding where
  source : HandoffSource
  owner : Slot.Consumer := .idle
  worker : Worker

namespace Feeding

inductive Move where
  /-- The owner asks for the next frame. -/
  | pull
  /-- The owner waits for a frame and looks whether it is there. -/
  | look
  /-- The producer takes a step. -/
  | work
deriving DecidableEq

/-- A step of the owner. -/
def call (st : Slot.Step) (f : Feeding) : Option Pulled × Feeding :=
  match Slot.step st f.owner f.source.slot with
  | (.pulled answer, owner, slot) =>
    let (result, source) := HandoffSource.settle answer { f.source with slot }
    (some ⟨result, source.current⟩, { f with source, owner })
  | (_, owner, slot) => (none, { f with source := { f.source with slot }, owner })

/-- The producer takes a step. -/
def labour (f : Feeding) : Feeding :=
  let (worker, slot) := f.worker.step f.source.slot
  { f with source := { f.source with slot }, worker }

/-- A step of either, and what the owner's call came to if it returned. -/
def step : Move → Feeding → Option Pulled × Feeding
  | .pull, f => f.call .start
  | .look, f => f.call .wake
  | .work, f => (none, f.labour)

/-- What the calls came to that returned, and where it leads. -/
def run : List Move → Feeding → List Pulled × Feeding
  | [], f => ([], f)
  | mv :: mvs, f =>
    let (r, f) := f.step mv
    let (rs, f) := run mvs f
    (r.toList ++ rs, f)

/-- A source that has this metadata at first, and a producer that has yet to begin. -/
def fresh (m : Metadata) (p : Producer) : Feeding :=
  { source := { metadata := m }, worker := { production := { producer := p } } }

end Feeding

/-! ## The frames of a pattern -/

/-- What pull number `k` comes to, of a stream that ends at this limit. -/
def Pulled.ofPattern (p : Pattern) (m : Metadata) (limit : Option Nat) (k : Nat) : Pulled :=
  if limit.any (· ≤ k) then ⟨.error .endOfStream, .error .noFrame⟩ else ⟨.ok (), .ok ⟨m, p.render k m⟩⟩

section
variable {p : Pattern} {m : Metadata} {limit : Option Nat} {k : Nat}

theorem Pulled.ofPattern_over (h : limit.any (· ≤ k) = true) :
    ofPattern p m limit k = ⟨.error .endOfStream, .error .noFrame⟩ := if_pos h

theorem Pulled.ofPattern_frame (h : ¬limit.any (· ≤ k) = true) :
    ofPattern p m limit k = ⟨.ok (), .ok ⟨m, p.render k m⟩⟩ := if_neg h

end

theorem over_succ {limit : Option Nat} {k : Nat} (h : limit.any (· ≤ k) = true) :
    limit.any (· ≤ k + 1) = true := by
  cases limit with
  | none => cases h
  | some n =>
    simp only [Option.any_some, decide_eq_true_eq] at h ⊢
    omega

namespace PatternSource

/-- What pulls from a source come to. -/
def pulls : Nat → PatternSource → List Pulled
  | 0, _ => []
  | n + 1, s => ⟨s.next.1, s.next.2.current⟩ :: pulls n s.next.2

/-- A source that has produced `k` frames, or all that it may produce, goes on with pull number `k`. -/
theorem pulls_eq (n : Nat) {k : Nat} {s : PatternSource}
    (h : s.produced = k ∨ s.limit.any (· ≤ s.produced) = true ∧ s.limit.any (· ≤ k) = true) :
    s.pulls n = (List.range' k n).map (.ofPattern s.pattern s.metadata s.limit) := by
  induction n generalizing k s with
  | zero => rfl
  | succ n ih =>
    rw [pulls, List.range'_succ, List.map_cons]
    by_cases hover : s.limit.any (· ≤ s.produced) = true
    · have hk : s.limit.any (· ≤ k) = true := by
        rcases h with rfl | ⟨-, hk⟩
        · exact hover
        · exact hk
      have hrest := @ih (k + 1) { s with hasFrame := false } (.inr ⟨hover, over_succ hk⟩)
      rw [next_of_over hover, hrest, Pulled.ofPattern, if_pos hk]
      rfl
    · have hk : s.produced = k := h.resolve_right fun h => hover h.1
      have hnext := next_of_more (Bool.eq_false_iff.2 hover)
      have hrest := @ih (k + 1) s.next.2 (.inl (by rw [hnext, hk]))
      rw [hrest, Pulled.ofPattern, hnext, ← hk, if_neg hover]
      rfl

end PatternSource

/-! ## Where the two are -/

/-- After how many frames a producer ends the stream: it looks at what it was told after it delivered one. -/
def Producer.bound (p : Producer) : Option Nat := p.frames.map (max 1)

def Producer.Over (p : Producer) (k : Nat) : Prop := p.bound.any (· ≤ k) = true

/-- The first frame is always delivered. -/
theorem Producer.not_over_zero (p : Producer) : ¬p.Over 0 := by
  unfold Over bound
  cases p.frames with
  | none => simp
  | some n =>
    simp only [Option.map_some, Option.any_some, decide_eq_true_eq]
    omega

theorem Producer.over_iff (p : Producer) (k : Nat) : p.Over (k + 1) ↔ p.frames.any (· ≤ k + 1) = true := by
  unfold Over bound
  cases p.frames with
  | none => simp
  | some n =>
    simp only [Option.map_some, Option.any_some, decide_eq_true_eq]
    omega

theorem Producer.bound_of_ne {p : Producer} (h : p.frames ≠ some 0) : p.bound = p.frames := by
  unfold bound
  cases hframes : p.frames with
  | none => rfl
  | some n =>
    have hn : n ≠ 0 := by
      rintro rfl
      exact h hframes
    rw [Option.map_some, Nat.max_eq_right (Nat.one_le_iff_ne_zero.2 hn)]

/-- What a producer that has delivered `j` frames is about while nobody asks it for one more, given what the
stream has ended with. -/
inductive Worker.Rests (p : Producer) (j : Nat) : Option FrameError → Worker → Prop where
  | seeking (h : ¬p.Over j) : Rests p j none ⟨⟨p, j, j, false⟩, .seek⟩
  | finishing (h : p.Over j) : Rests p j none ⟨⟨p, j, j, false⟩, .finish⟩
  | stopped {w : Worker} (h : p.Over j) (hw : w.production.stopped = true) : Rests p j (some .endOfStream) w

/-- The consumer is there, nothing was lost on the way, and the next ticket is new. -/
structure Slot.Tidy (s : Slot) : Prop where
  closed : s.closed = false
  overflow : s.overflowPending = false
  requested : ∀ t, s.requested = some t → t < s.nextTicket
  claimed : ∀ t, s.claimed = some t → t < s.nextTicket

/-- Where the two are when `k` calls have returned. -/
inductive Feeding.Phase (p : Producer) (k : Nat) : Slot.Consumer → Slot → Worker → Prop where
  | idle {s : Slot} {w : Worker} (hs : s.Tidy) (hf : s.frame = none) (hr : s.requested = none)
    (hw : w.Rests p k s.terminal) : Phase p k .idle s w
  | asked {s : Slot} {w : Worker} {t : Nat} (hs : s.Tidy) (hf : s.frame = none) (hr : s.requested = some t)
    (hc : s.claimed ≠ some t) (hw : w.Rests p k s.terminal) : Phase p k .waiting s w
  | claimed {s : Slot} {t : Nat} (hs : s.Tidy) (hf : s.frame = none) (hr : s.requested = some t)
    (ht : s.terminal = none) (hover : ¬p.Over k) : Phase p k .waiting s ⟨⟨p, k, k, false⟩, .answer t⟩
  | answered {s : Slot} {w : Worker} {t : Nat} (hs : s.Tidy)
    (hf : s.frame = some ⟨p.metadata, p.pattern.render k p.metadata, t⟩) (hr : s.requested = none)
    (hover : ¬p.Over k) (hw : w.Rests p (k + 1) s.terminal) : Phase p k .waiting s w

/-! ## A step of the producer -/

section
variable {p : Producer} {k : Nat} {s : Slot} {w : Worker} {c : Slot.Consumer} {t : Nat}

theorem Slot.Tidy.isClosed (hs : s.Tidy) (ht : s.terminal = none) : s.isClosed = false := by
  rw [Slot.isClosed, hs.closed, ht]
  rfl

/-- While nobody asks, a producer can do no more than end the stream. -/
theorem Worker.Rests.step (h : w.Rests p k s.terminal) (hs : s.Tidy) (hr : s.requested = none) :
    (w.step s).1.Rests p k (w.step s).2.terminal ∧ (w.step s).2.Tidy ∧ (w.step s).2.frame = s.frame ∧
      (w.step s).2.requested = none := by
  generalize ht : s.terminal = terminal at h
  cases h with
  | seeking hover =>
    have hpoll : s.poll = (.timedOut, s) := by simp [Slot.poll, hs.isClosed ht, hr]
    have hstep : Worker.step ⟨⟨p, k, k, false⟩, .seek⟩ s = (⟨⟨p, k, k, false⟩, .seek⟩, s) := by
      simp [Worker.step, hpoll]
    rw [hstep, ht]
    exact ⟨.seeking hover, hs, rfl, hr⟩
  | finishing hover =>
    rw [Worker.step_finish rfl rfl]
    simp only [Slot.terminate, ht, Option.isSome_none, Bool.false_eq_true, if_false]
    exact ⟨.stopped hover rfl, ⟨hs.closed, hs.overflow, hs.requested, hs.claimed⟩, trivial, hr⟩
  | stopped hover hw =>
    rw [Worker.step_stopped hw, ht]
    exact ⟨.stopped hover hw, hs, rfl, hr⟩

/-- A frame for the ticket that the consumer waits on is taken. -/
theorem Slot.Tidy.publish (hs : s.Tidy) (hf : s.frame = none) (hr : s.requested = some t)
    (ht : s.terminal = none) (m : Metadata) (d : Bytes) :
    ∃ s', s.publish t m d = (.delivered, s') ∧ s'.Tidy ∧ s'.frame = some ⟨m, d, t⟩ ∧ s'.requested = none ∧
      s'.terminal = none := by
  refine ⟨(s.publish t m d).2, ?_⟩
  simp only [Slot.publish, hs.isClosed ht, ht, hr, hf, Option.isSome_none, Bool.false_eq_true, if_false,
    true_or, not_true_eq_false, or_self]
  exact ⟨trivial, ⟨hs.closed, hs.overflow, by simp, hs.claimed⟩, trivial, trivial, trivial⟩

/-- A producer that has claimed a ticket delivers its frame. -/
theorem Worker.step_answer (hs : s.Tidy) (hf : s.frame = none) (hr : s.requested = some t)
    (ht : s.terminal = none) :
    ∃ w s', Worker.step ⟨⟨p, k, k, false⟩, .answer t⟩ s = (w, s') ∧ w.Rests p (k + 1) s'.terminal ∧ s'.Tidy ∧
      s'.frame = some ⟨p.metadata, p.pattern.render k p.metadata, t⟩ ∧ s'.requested = none := by
  obtain ⟨s', hpublish, hs', hf', hr', ht'⟩ := hs.publish hf hr ht p.metadata (p.pattern.render k p.metadata)
  by_cases hover : p.Over (k + 1)
  · refine ⟨⟨⟨p, k + 1, k + 1, false⟩, .finish⟩, s', ?_, ht' ▸ .finishing hover, hs', hf', hr'⟩
    simp [step, hpublish, (p.over_iff k).1 hover]
  · refine ⟨⟨⟨p, k + 1, k + 1, false⟩, .seek⟩, s', ?_, ht' ▸ .seeking hover, hs', hf', hr'⟩
    simp [step, hpublish, mt (p.over_iff k).2 hover]

theorem Feeding.Phase.work (h : Phase p k c s w) : Phase p k c (w.step s).2 (w.step s).1 := by
  cases h with
  | idle hs hf hr hw =>
    obtain ⟨hw', hs', hf', hr'⟩ := hw.step hs hr
    exact .idle hs' (hf'.trans hf) hr' hw'
  | @asked _ _ t hs hf hr hc hw =>
    generalize ht : s.terminal = terminal at hw
    cases hw with
    | seeking hover =>
      have hopen : s.isClosed = false := hs.isClosed ht
      have hold : ∀ t', some t = some t' → t' < s.nextTicket := by
        rintro _ ⟨⟩
        exact hs.requested t hr
      rw [Worker.step_claim rfl rfl hopen hr hc]
      exact .claimed ⟨hs.closed, hs.overflow, hs.requested, hold⟩ hf hr ht hover
    | finishing hover =>
      rw [Worker.step_finish rfl rfl]
      simp only [Slot.terminate, ht, Option.isSome_none, Bool.false_eq_true, if_false]
      exact .asked ⟨hs.closed, hs.overflow, hs.requested, hs.claimed⟩ hf hr hc (.stopped hover rfl)
    | stopped hover hw =>
      rw [Worker.step_stopped hw]
      exact .asked hs hf hr hc (ht ▸ .stopped hover hw)
  | claimed hs hf hr ht hover =>
    obtain ⟨w, s', hstep, hw', hs', hf', hr'⟩ := Worker.step_answer hs hf hr ht
    rw [hstep]
    exact .answered hs' hf' hr' hover hw'
  | answered hs hf hr hover hw =>
    obtain ⟨hw', hs', hf', hr'⟩ := hw.step hs hr
    exact .answered hs' (hf'.trans hf) hr' hover hw'

/-! ## A step of the owner -/

/-- What the slot is to answer to call number `k`. -/
inductive Producer.Answer (p : Producer) (k : Nat) : Except FrameError PublishedFrame → Prop where
  | ended (h : p.Over k) : Answer p k (.error .endOfStream)
  | frame (h : ¬p.Over k) (t : Nat) : Answer p k (.ok ⟨p.metadata, p.pattern.render k p.metadata, t⟩)

/-- A source that takes up the answer shows what a source of the pattern would. -/
theorem Producer.Answer.settle {a : Except FrameError PublishedFrame} (h : p.Answer k a) (source : HandoffSource) :
    Pulled.mk (HandoffSource.settle a source).1 (HandoffSource.settle a source).2.current =
        .ofPattern p.pattern p.metadata p.bound k ∧
      (HandoffSource.settle a source).2.slot = source.slot := by
  cases h with
  | ended h => exact ⟨(Pulled.ofPattern_over h).symm, rfl⟩
  | frame h t => exact ⟨(Pulled.ofPattern_frame h).symm, rfl⟩

/-- A producer that goes on is the one that it was. -/
theorem Feeding.Phase.producer_eq (h : Phase p k .idle s w) (hgoing : w.production.stopped = false) :
    w.production.producer = p := by
  cases h with
  | idle _ _ _ hw =>
    generalize s.terminal = terminal at hw
    cases hw with
    | seeking | finishing => rfl
    | stopped _ hstopped => exact absurd (hgoing.symm.trans hstopped) Bool.false_ne_true

theorem Feeding.Phase.start (h : Phase p k .idle s w) :
    (∃ s', s.start = (none, s') ∧ Phase p k .waiting s' w) ∨
      ∃ a s', s.start = (some a, s') ∧ p.Answer k a ∧ Phase p (k + 1) .idle s' w := by
  cases h with
  | idle hs hf hr hw =>
    cases ht : s.terminal with
    | none =>
      rw [ht] at hw
      refine .inl ⟨_, by rw [Slot.start, hf, ht, hs.overflow]; rfl, ?_⟩
      refine .asked ⟨hs.closed, rfl, ?_, ?_⟩ rfl rfl ?_ hw
      · rintro _ ⟨⟩
        exact Nat.lt_succ_self _
      · intro t hc
        exact Nat.lt_succ_of_lt (hs.claimed t hc)
      · intro hc
        exact Nat.lt_irrefl _ (hs.claimed _ hc)
    | some e =>
      rw [ht] at hw
      cases hw with
      | stopped hover hw =>
        refine .inr ⟨_, _, by rw [Slot.start, hf, ht], .ended hover, ?_⟩
        exact .idle ⟨hs.closed, hs.overflow, hs.requested, hs.claimed⟩ rfl hr (.stopped (over_succ hover) hw)

theorem Feeding.Phase.take (h : Phase p k .waiting s w) :
    s.take? = (none, s) ∨
      ∃ a s', s.take? = (some a, s') ∧ p.Answer k a ∧ Phase p (k + 1) .idle s' w := by
  cases h with
  | asked hs hf hr hc hw =>
    cases ht : s.terminal with
    | none => exact .inl (by rw [Slot.take?, hf, ht])
    | some e =>
      rw [ht] at hw
      cases hw with
      | stopped hover hw =>
        refine .inr ⟨_, _, by rw [Slot.take?, hf, ht], .ended hover, ?_⟩
        exact .idle ⟨hs.closed, hs.overflow, by simp, hs.claimed⟩ rfl rfl (.stopped (over_succ hover) hw)
  | claimed hs hf hr ht => exact .inl (by rw [Slot.take?, hf, ht])
  | answered hs hf hr hover hw =>
    refine .inr ⟨_, _, by rw [Slot.take?, hf], .frame hover _, ?_⟩
    exact .idle ⟨hs.closed, hs.overflow, hs.requested, hs.claimed⟩ rfl hr hw

end

/-! ## A step of either -/

namespace Feeding

variable {p : Producer} {k : Nat} {f : Feeding}

/-- The producer and the source of the owner are where they are after `k` calls. -/
def At (p : Producer) (k : Nat) (f : Feeding) : Prop := Phase p k f.owner f.source.slot f.worker

theorem at_fresh (m : Metadata) (p : Producer) : (fresh m p).At p 0 :=
  .idle ⟨rfl, rfl, by simp [fresh], by simp [fresh]⟩ rfl rfl (.seeking p.not_over_zero)

/-- No call returned, or the next one did and came to what it should. -/
inductive Onward (p : Producer) (k : Nat) : Option Pulled → Feeding → Prop where
  | silent {f : Feeding} (h : f.At p k) : Onward p k none f
  | pulled {f : Feeding} (h : f.At p (k + 1)) : Onward p k (some (.ofPattern p.pattern p.metadata p.bound k)) f

/-- A call that the slot answers. -/
theorem onward_of_answer {a : Except FrameError PublishedFrame} {s : Slot} (h : p.Answer k a)
    (hnext : Phase p (k + 1) .idle s f.worker) :
    Onward p k (some ⟨(HandoffSource.settle a { f.source with slot := s }).1,
        (HandoffSource.settle a { f.source with slot := s }).2.current⟩)
      { f with source := (HandoffSource.settle a { f.source with slot := s }).2, owner := .idle } := by
  obtain ⟨hpulled, hslot⟩ := h.settle { f.source with slot := s }
  rw [hpulled]
  refine .pulled ?_
  show Phase p (k + 1) .idle (HandoffSource.settle a { f.source with slot := s }).2.slot f.worker
  rw [hslot]
  exact hnext

theorem At.pull (h : f.At p k) : Onward p k (f.call .start).1 (f.call .start).2 := by
  cases howner : f.owner with
  | idle =>
    rw [At, howner] at h
    rcases h.start with ⟨s', hstart, hnext⟩ | ⟨a, s', hstart, ha, hnext⟩
    · simp only [call, howner, Slot.step, hstart]
      exact .silent hnext
    · simp only [call, howner, Slot.step, hstart]
      exact onward_of_answer ha hnext
  | waiting =>
    simp only [call, howner, Slot.step]
    exact .silent (howner ▸ h)
  | gone =>
    rw [At, howner] at h
    cases h

theorem At.look (h : f.At p k) : Onward p k (f.call .wake).1 (f.call .wake).2 := by
  cases howner : f.owner with
  | idle =>
    simp only [call, howner, Slot.step]
    exact .silent (howner ▸ h)
  | waiting =>
    rw [At, howner] at h
    rcases h.take with hnone | ⟨a, s', htake, ha, hnext⟩
    · simp only [call, howner, Slot.step, hnone]
      exact .silent h
    · simp only [call, howner, Slot.step, htake]
      exact onward_of_answer ha hnext
  | gone =>
    rw [At, howner] at h
    cases h

theorem At.step (h : f.At p k) (mv : Move) : Onward p k (f.step mv).1 (f.step mv).2 := by
  cases mv with
  | pull => exact h.pull
  | look => exact h.look
  | work => exact .silent h.work

/-! ## Runs -/

/-- The calls of a run return what is due, one result after the other. -/
theorem At.run (h : f.At p k) (mvs : List Move) :
    (f.run mvs).1 = (List.range' k (f.run mvs).1.length).map (.ofPattern p.pattern p.metadata p.bound) ∧
      (f.run mvs).2.At p (k + (f.run mvs).1.length) := by
  induction mvs generalizing f k with
  | nil => exact ⟨rfl, h⟩
  | cons mv mvs ih =>
    have hstep := h.step mv
    simp only [Feeding.run]
    generalize f.step mv = rf at hstep ⊢
    obtain ⟨r, f'⟩ := rf
    cases hstep with
    | silent h' => exact ih h'
    | pulled h' =>
      obtain ⟨hresults, hat⟩ := ih h'
      simp only [Option.toList_some, List.singleton_append, List.length_cons, List.range'_succ, List.map_cons]
      refine ⟨congrArg _ hresults, ?_⟩
      rw [Nat.add_comm _ 1, ← Nat.add_assoc]
      exact hat

/-! ## No call waits for ever -/

/-- How many steps of the producer a call that waits is away from its answer. -/
def lag (f : Feeding) : Nat :=
  if f.source.slot.frame.isSome || f.source.slot.terminal.isSome then 0
  else if f.worker.task = .seek then 2 else 1

theorem lag_of_frame (h : f.source.slot.frame.isSome) : f.lag = 0 := by simp [lag, h]

theorem lag_of_terminal (h : f.source.slot.terminal.isSome) : f.lag = 0 := by simp [lag, h]

theorem lag_le (f : Feeding) : f.lag ≤ 2 := by
  unfold lag
  split
  · decide
  · split <;> decide

/-- While a call waits, every step of the producer brings its answer nearer. -/
theorem At.lag_labour (h : f.At p k) (howner : f.owner = .waiting) : f.labour.lag ≤ f.lag - 1 := by
  obtain ⟨source, owner, w⟩ := f
  obtain rfl : owner = .waiting := howner
  have hphase : Phase p k .waiting source.slot w := h
  cases hphase with
  | asked hs hf hr hc hw =>
    cases ht : source.slot.terminal with
    | none =>
      rw [ht] at hw
      cases hw with
      | seeking hover =>
        have hstep := Worker.step_claim (w := ⟨⟨p, k, k, false⟩, .seek⟩) rfl rfl (hs.isClosed ht) hr hc
        simp [labour, hstep, lag, hf, ht]
      | finishing hover =>
        refine Nat.le_trans (Nat.le_of_eq (lag_of_terminal ?_)) (Nat.zero_le _)
        simp [labour, Worker.step_finish, Slot.terminate, ht]
    | some e =>
      rw [ht] at hw
      cases hw with
      | stopped hover hw =>
        refine Nat.le_trans (Nat.le_of_eq (lag_of_terminal ?_)) (Nat.zero_le _)
        simp [labour, Worker.step_stopped hw, ht]
  | claimed hs hf hr ht hover =>
    obtain ⟨w, s', hstep, -, -, hf', -⟩ := Worker.step_answer (p := p) (k := k) hs hf hr ht
    refine Nat.le_trans (Nat.le_of_eq (lag_of_frame ?_)) (Nat.zero_le _)
    simp [labour, hstep, hf']
  | answered hs hf hr hover hw =>
    refine Nat.le_trans (Nat.le_of_eq (lag_of_frame ?_)) (Nat.zero_le _)
    simp [labour, (hw.step hs hr).2.2.1, hf]

theorem pull_waiting (howner : f.owner = .waiting) : f.call .start = (none, f) := by
  obtain ⟨source, owner, worker⟩ := f
  obtain rfl : owner = .waiting := howner
  rfl

/-- A call that waits goes on waiting or returns. -/
theorem look_waiting (howner : f.owner = .waiting) :
    f.call .wake = (none, f) ∧ f.lag ≠ 0 ∨ ∃ r, (f.call .wake).1 = some r := by
  obtain ⟨source, owner, worker⟩ := f
  obtain rfl : owner = .waiting := howner
  cases hf : source.slot.frame with
  | some frame => exact .inr ⟨_, by simp only [call, Slot.step, Slot.take?, hf]; rfl⟩
  | none =>
    cases ht : source.slot.terminal with
    | some e => exact .inr ⟨_, by simp only [call, Slot.step, Slot.take?, hf, ht]; rfl⟩
    | none =>
      refine .inl ⟨by simp only [call, Slot.step, Slot.take?, hf, ht], ?_⟩
      simp only [lag, hf, ht, Option.isSome_none, Bool.or_self, Bool.false_eq_true, if_false]
      split <;> decide

/-- A call that waits returns when it looks after the producer took as many steps as it is away from its answer. -/
theorem At.answered (h : f.At p k) (howner : f.owner = .waiting) {mvs : List Move}
    (hn : f.lag ≤ mvs.count .work) : ∃ r rs, (f.run (mvs ++ [.look])).1 = r :: rs := by
  induction mvs generalizing f with
  | nil =>
    rcases look_waiting howner with ⟨-, hlag⟩ | ⟨r, hr⟩
    · exact absurd (Nat.le_zero.1 hn) hlag
    · exact ⟨r, [], by simp [Feeding.run, Feeding.step, hr]⟩
  | cons mv mvs ih =>
    cases mv with
    | pull =>
      obtain ⟨r, rs, hrun⟩ := ih h howner (by simpa using hn)
      exact ⟨r, rs, by simpa [Feeding.run, Feeding.step, pull_waiting howner] using hrun⟩
    | look =>
      rcases look_waiting howner with ⟨hcall, -⟩ | ⟨r, hr⟩
      · obtain ⟨r, rs, hrun⟩ := ih h howner (by simpa using hn)
        exact ⟨r, rs, by simpa [Feeding.run, Feeding.step, hcall] using hrun⟩
      · exact ⟨r, _, by simp [Feeding.run, Feeding.step, hr]; rfl⟩
    | work =>
      have hlag := h.lag_labour howner
      rw [List.count_cons_self] at hn
      obtain ⟨r, rs, hrun⟩ := ih (f := f.labour) h.work howner (by omega)
      exact ⟨r, rs, by simpa [Feeding.run, Feeding.step] using hrun⟩

theorem run_append (mvs mvs' : List Move) (f : Feeding) :
    f.run (mvs ++ mvs') = ((f.run mvs).1 ++ ((f.run mvs).2.run mvs').1, ((f.run mvs).2.run mvs').2) := by
  induction mvs generalizing f with
  | nil => rfl
  | cons mv mvs ih =>
    simp only [List.cons_append, run, ih, List.append_assoc]

/-- The producer takes some steps. -/
def works (n : Nat) (f : Feeding) : Feeding :=
  { f with
    source := { f.source with slot := (f.worker.steps n f.source.slot).2 }
    worker := (f.worker.steps n f.source.slot).1 }

theorem run_works (n : Nat) (f : Feeding) : f.run (List.replicate n .work) = ([], f.works n) := by
  induction n generalizing f with
  | zero => rfl
  | succ n ih =>
    rw [List.replicate_succ]
    simp only [run, step, ih]
    rfl

end Feeding

/-! ## The producer answers while the source waits -/

namespace FedSource

/-- What pulls from a source come to, with the time at which the producer answers each. -/
def pulls : List Nat → FedSource → List Pulled
  | [], _ => []
  | clock :: clocks, f => ⟨(f.next clock).1, (f.next clock).2.source.current⟩ :: pulls clocks (f.next clock).2

/-- The source and its producer between two calls. -/
def feeding (f : FedSource) : Feeding := ⟨f.source, .idle, ⟨f.production, .seek⟩⟩

variable {p : Producer} {k clock : Nat} {f : FedSource}

/-- A pull is a run: the owner asks, the producer takes its turn, and the owner looks. -/
theorem run_of_next (h : f.feeding.At p k) (htime : p.keepsTime clock = true) :
    ∃ mvs, f.feeding.run mvs =
      ([⟨(f.next clock).1, (f.next clock).2.source.current⟩], (f.next clock).2.feeding) := by
  rcases Feeding.Phase.start h with ⟨s, hstart, hwaits⟩ | ⟨a, s, hstart, -, -⟩
  · have hstart : f.source.slot.start = (none, s) := hstart
    have hkeeps : f.production.stopped = false → f.production.producer.keepsTime clock = true := by
      intro hgoing
      have hproducer : f.production.producer = p := Feeding.Phase.producer_eq h hgoing
      rwa [hproducer]
    obtain ⟨n, hn, hsteps⟩ := Worker.steps_of_turn f.production s hkeeps
    let asked : Feeding := ⟨{ f.source with slot := s }, .waiting, ⟨f.production, .seek⟩⟩
    let done : Feeding :=
      ⟨{ f.source with slot := (f.production.turn s clock).2 }, .waiting,
        ⟨(f.production.turn s clock).1, .seek⟩⟩
    have hasked : f.feeding.run [.pull] = ([], asked) := by
      simp only [Feeding.run, Feeding.step, Feeding.call, feeding, Slot.step, hstart]
      rfl
    have hdone : asked.run (List.replicate n .work) = ([], done) := by
      rw [Feeding.run_works, Feeding.works]
      simp only [asked, hsteps]
      rfl
    have hat : done.At p k := by
      have := (Feeding.At.run (f := asked) hwaits (List.replicate n .work)).2
      rwa [hdone] at this
    -- the producer has had its turn, so that the slot has an answer
    have henough : asked.lag ≤ (List.replicate n Feeding.Move.work).count .work := by
      rw [List.count_replicate_self]
      exact Nat.le_trans asked.lag_le hn
    obtain ⟨r, rs, hreturned⟩ := Feeding.At.answered (f := asked) hwaits rfl henough
    rw [Feeding.run_append, hdone] at hreturned
    refine ⟨[.pull] ++ (List.replicate n .work ++ [.look]), ?_⟩
    rw [Feeding.run_append, hasked, Feeding.run_append, hdone]
    rcases Feeding.Phase.take hat with hnone | ⟨a, s', htake, -, -⟩
    · simp [Feeding.run, Feeding.step, Feeding.call, Slot.step, done, hnone] at hreturned
    · have htake : (f.production.turn s clock).2.take? = (some a, s') := htake
      simp only [Feeding.run, Feeding.step, Feeding.call, Slot.step, done, feeding, next, hstart, Slot.expire,
        htake]
      rfl
  · have hstart : f.source.slot.start = (some a, s) := hstart
    refine ⟨[.pull], ?_⟩
    simp only [Feeding.run, Feeding.step, Feeding.call, feeding, Slot.step, next, hstart]
    rfl

theorem pulls_eq {clocks : List Nat} (h : f.feeding.At p k) (htime : ∀ t ∈ clocks, p.keepsTime t = true) :
    f.pulls clocks = (List.range' k clocks.length).map (.ofPattern p.pattern p.metadata p.bound) := by
  induction clocks generalizing f k with
  | nil => rfl
  | cons clock clocks ih =>
    obtain ⟨hnow, hlater⟩ := List.forall_mem_cons.1 htime
    obtain ⟨mvs, hrun⟩ := run_of_next h hnow
    obtain ⟨hresults, hat⟩ := h.run mvs
    rw [hrun] at hresults hat
    have hlength : (clock :: clocks).length = clocks.length + 1 := List.length_cons
    rw [pulls, ih hat hlater, hlength, List.range'_succ, List.map_cons, (List.cons.inj hresults).1]
    rfl

end FedSource

/-- A source that renders the frames itself which a producer delivers. -/
def Producer.rendered (p : Producer) : PatternSource :=
  { metadata := p.metadata, pattern := p.pattern, limit := p.bound }

theorem Producer.pulls_rendered (p : Producer) (n : Nat) :
    p.rendered.pulls n = (List.range' 0 n).map (.ofPattern p.pattern p.metadata p.bound) :=
  PatternSource.pulls_eq n (s := p.rendered) (.inl rfl)

/-- **A fed source shows what is rendered.** However the steps of a producer and of the owner of the source that
it feeds come between each other, the pulls return, frame for frame and byte for byte, what they return on a
source that renders the pattern itself: as many frames as the producer was told, and the end of the stream from
then on. A pull that waits returns as soon as it looks again after two more steps of the producer. It comes to the same
if the producer answers each pull at some time, while it is in time for the next frame. Only a producer that was told
to deliver no frame has another bound: it delivers one before it looks. -/
theorem fed_as_rendered (p : Producer) (m : Metadata) :
    (∀ mvs, ((Feeding.fresh m p).run mvs).1 =
        p.rendered.pulls ((Feeding.fresh m p).run mvs).1.length) ∧
      (∀ mvs mvs', ((Feeding.fresh m p).run mvs).2.owner = .waiting → 2 ≤ mvs'.count .work →
        ∃ r rs, (((Feeding.fresh m p).run mvs).2.run (mvs' ++ [.look])).1 = r :: rs) ∧
      (∀ clocks : List Nat, (∀ t ∈ clocks, p.keepsTime t = true) →
        FedSource.pulls clocks ⟨{ metadata := m }, { producer := p }⟩ = p.rendered.pulls clocks.length) ∧
      (∀ n, p.rendered.pulls n = (List.range n).map (.ofPattern p.pattern p.metadata p.bound)) ∧
      (p.frames ≠ some 0 →
        p.rendered = { metadata := p.metadata, pattern := p.pattern, limit := p.frames }) := by
  have hfresh : (Feeding.fresh m p).At p 0 := Feeding.at_fresh m p
  refine ⟨fun mvs => ?_, fun mvs mvs' howner hn => ?_, fun clocks htime => ?_, fun n => ?_, fun hframes => ?_⟩
  · rw [p.pulls_rendered]
    exact (hfresh.run mvs).1
  · exact (hfresh.run mvs).2.answered howner (Nat.le_trans (Feeding.lag_le _) hn)
  · rw [p.pulls_rendered]
    exact FedSource.pulls_eq (f := ⟨{ metadata := m }, { producer := p }⟩) hfresh htime
  · rw [p.pulls_rendered, List.range_eq_range']
  · rw [Producer.rendered, Producer.bound_of_ne hframes]

/-- A stream of one frame, at thirty a second, ends while the second pull waits, or before it; the second pull is told
so either way. -/
theorem fed_as_rendered_racing :
    let m : Metadata := ⟨.uint8, 2, 1, .grayscale, .planar, "topLeft"⟩
    let p : Producer := { pattern := .ramp, metadata := m, fps := some 0x403e000000000000, frames := some 1 }
    ((Feeding.fresh m p).run [.pull, .work, .work, .look, .pull, .look, .work, .look]).1 = p.rendered.pulls 2 ∧
      ((Feeding.fresh m p).run [.pull, .work, .work, .work, .look, .pull]).1 = p.rendered.pulls 2 ∧
      FedSource.pulls [5, 6] ⟨{ metadata := m }, { producer := p }⟩ = p.rendered.pulls 2 ∧
      p.rendered.pulls 2 = [⟨.ok (), .ok ⟨m, [0, 1]⟩⟩, ⟨.error .endOfStream, .error .noFrame⟩] ∧
      p.rendered = { metadata := m, pattern := .ramp, limit := some 1 } := by
  intro m p
  have htime : ∀ t ∈ [5, 6], p.keepsTime t = true := by decide +kernel
  obtain ⟨hruns, -, htimed, -, hrendered⟩ := fed_as_rendered p m
  exact ⟨hruns [.pull, .work, .work, .look, .pull, .look, .work, .look],
    hruns [.pull, .work, .work, .work, .look, .pull], htimed [5, 6] htime, rfl, hrendered (by decide)⟩

/-- With a rate so low that no double tells the period, nobody answers. -/
example : FedSource.pulls [0] ⟨{ metadata := default },
    { producer := { pattern := .ramp, metadata := default, fps := some 1 } }⟩ =
      [⟨.error .timeout, .error .noFrame⟩] := by
  have hperiod : Producer.hasPeriod { pattern := .ramp, metadata := default, fps := some 1 } = false := by
    decide +kernel
  simp only [FedSource.pulls, FedSource.next, Production.turn, hperiod]
  rfl

/-- A producer that is to deliver no frame delivers one; a source that is to render none renders none. -/
theorem fed_of_nothing :
    let m : Metadata := ⟨.uint8, 2, 1, .grayscale, .planar, "topLeft"⟩
    ((Feeding.fresh m { pattern := .ramp, metadata := m, frames := some 0 }).run [.pull, .work, .work, .look]).1 =
        [⟨.ok (), .ok ⟨m, [0, 1]⟩⟩] ∧
      PatternSource.pulls 1 { metadata := m, pattern := .ramp, limit := some 0 } =
        [⟨.error .endOfStream, .error .noFrame⟩] :=
  ⟨rfl, rfl⟩

end FrameFeed
