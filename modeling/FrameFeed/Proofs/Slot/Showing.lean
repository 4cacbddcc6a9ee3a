import FrameFeed.Proofs.Slot.Termination
/-!
# What can be seen of a slot

The state that a slot shows is a field of its own beside those it sums up, set by every side. `Agrees` says
what each state stands for: a slot that waits holds no frame and its last ticket is unanswered, one that is
ready was given a frame since its last ticket. Together with `Settled` this leaves no other state, so a slot
waits exactly if it could not be ready or over (`state_agrees`). `Keeps` says what the two tickets of a slot
are, also once the stream is over, when they no longer matter.
-/
namespace FrameFeed
namespace Slot

variable {es : List Event} {c c' : Consumer} {s s' : Slot} {e : Event}

/-! ## What the state stands for -/

/-- The state of a slot agrees with its other fields and with its history. -/
structure Agrees (es : List Event) (s : Slot) : Prop where
  held : s.frame.isSome = true → s.state = .ready ∧ s.requested = none ∧ s.withdrawn = none
  waiting : s.state = .waiting → s.frame = none ∧ s.terminal = none ∧
    (lastTicket es = 0 ∨ issuedAtDelivery es < lastTicket es)
  ready : s.state = .ready → 0 < lastTicket es ∧ issuedAtDelivery es = lastTicket es

theorem terminalState_isFinal (e : FrameError) : (terminalState e).isFinal = true := by
  cases e <;> rfl

namespace Agrees

theorem fresh : Agrees [] {} := ⟨nofun, fun _ => ⟨rfl, rfl, .inl rfl⟩, nofun⟩

/-- An event that touches neither what the state sums up nor the tickets issued and answered. -/
theorem keep (h : Agrees es s) (ht : e.ticket? = none) (hd : e.delivery? = none)
    (hs : s'.state = s.state) (hf : s'.frame = s.frame) (hterminal : s'.terminal = s.terminal)
    (hr : s.requested = none → s'.requested = none) (hw : s.withdrawn = none → s'.withdrawn = none) :
    Agrees (es ++ [e]) s' := by
  have hlast : lastTicket (es ++ [e]) = lastTicket es := by simp [lastTicket_concat, ht]
  have hat : issuedAtDelivery (es ++ [e]) = issuedAtDelivery es := issuedAtDelivery_concat_of_none hd
  refine ⟨?_, ?_, ?_⟩
  · intro hsome
    obtain ⟨hready, hrequested, hwithdrawn⟩ := h.held (hf ▸ hsome)
    exact ⟨hs.trans hready, hr hrequested, hw hwithdrawn⟩
  · intro hwaiting
    rw [hf, hterminal, hlast, hat]
    exact h.waiting (hs ▸ hwaiting)
  · intro hready
    rw [hlast, hat]
    exact h.ready (hs ▸ hready)

/-- A slot that is seen to be over is neither waiting nor ready. -/
theorem of_final (hf : s.frame = none) (hfinal : s.state.isFinal = true) : Agrees es s := by
  refine ⟨?_, ?_, ?_⟩
  · intro hsome
    rw [hf] at hsome
    cases hsome
  · intro hwaiting
    rw [hwaiting] at hfinal
    cases hfinal
  · intro hready
    rw [hready] at hfinal
    cases hfinal

theorem acts (h : Agrees es s) (hr : Remembers es c s) {a : Act} {r : ActResult} (ha : Acts s a r s') :
    Agrees (es ++ [.acted a r]) s' := by
  cases ha with
  | pollClosed | pollNothing | claim | look | publishClosed | discard | overflowOver | overflow =>
    exact h.keep rfl rfl rfl rfl rfl id id
  | endOver => exact h.keep rfl (by cases a <;> rfl) rfl rfl rfl id id
  | @deliver t m d hs hf ht =>
    obtain ⟨hlt, hle, -⟩ := (hr.answerable hs t).1 ht
    have hlast : lastTicket (es ++ [.acted (.publish t m d) (.published .delivered)]) = lastTicket es :=
      lastTicket_concat
    refine ⟨fun _ => ⟨rfl, rfl, rfl⟩, nofun, fun _ => ?_⟩
    rw [hlast, issuedAtDelivery_concat_of_some rfl, tickets_concat]
    exact ⟨Nat.lt_of_le_of_lt (Nat.zero_le _) (Nat.lt_of_lt_of_le hlt hle), by simp [hr.count, Event.ticket?]⟩
  | finish ha hs =>
    have hdelivery : (Event.acted a .done).delivery? = none := by cases a <;> rfl
    by_cases hf : s.frame.isSome = true
    · obtain ⟨hready, hrequested, hwithdrawn⟩ := h.held hf
      have hlast : lastTicket (es ++ [.acted a .done]) = lastTicket es := lastTicket_concat
      refine ⟨fun _ => ⟨(if_pos hf).trans hready, hrequested, hwithdrawn⟩, ?_, fun _ => ?_⟩
      · intro hwaiting
        simp only [hf, if_true, hready] at hwaiting
        cases hwaiting
      · rw [hlast, issuedAtDelivery_concat_of_none hdelivery]
        exact h.ready hready
    · refine of_final (by simpa using hf) ?_
      simp only [hf]
      exact terminalState_isFinal _

theorem moves (h : Agrees es s) (hr : Remembers es c s) (hm : Moves c s e c' s') :
    Agrees (es ++ [e]) s' := by
  cases hm with
  | still | overflow => exact h.keep rfl rfl rfl rfl rfl id id
  | drop => exact h.keep rfl rfl rfl rfl rfl (fun _ => rfl) id
  | act ha => exact h.acts hr ha
  | @hand f _ hf =>
    obtain ⟨hready, -, -⟩ := h.held (by rw [hf]; rfl)
    have hlast : lastTicket (es ++ [.pulled (.ok f)]) = lastTicket es := lastTicket_concat
    refine ⟨nofun, nofun, fun _ => ?_⟩
    rw [hlast, issuedAtDelivery_concat_of_none rfl]
    exact h.ready hready
  | refuse _ hf | giveUp _ hf => exact of_final hf (terminalState_isFinal _)
  | issue _ hf ht =>
    refine ⟨fun hsome => ?_, fun _ => ⟨hf, ht, .inr ?_⟩, nofun⟩
    · rw [show s.frame = none from hf] at hsome
      cases hsome
    · have hlast : lastTicket (es ++ [.issued s.nextTicket]) = s.nextTicket := lastTicket_concat
      rw [hlast, issuedAtDelivery_concat_of_none rfl, hr.next]
      exact Nat.lt_succ_of_le hr.answered
  | @expire hc hf ht =>
    have hlast : lastTicket (es ++ [.pulled (.error .timeout)]) = lastTicket es := lastTicket_concat
    refine ⟨fun hsome => ?_, fun hwaiting => ?_, fun hready => ?_⟩
    · rw [show s.frame = none from hf] at hsome
      cases hsome
    · rw [hlast, issuedAtDelivery_concat_of_none rfl]
      exact h.waiting hwaiting
    · rw [hlast, issuedAtDelivery_concat_of_none rfl]
      exact h.ready hready

end Agrees

theorem Reaches.agrees (h : Reaches es c s) : Agrees es s := by
  induction h with
  | fresh => exact .fresh
  | move h hm ih => exact ih.moves h.remembers hm

/-! ## The tickets that are kept -/

/-- What the tickets of a slot are, whether the stream is over or not, and what the cause of its end is. -/
structure Keeps (es : List Event) (c : Consumer) (s : Slot) : Prop where
  present : s.closed = true → c = .gone
  requested : ∀ t, s.requested = some t → c = .waiting ∧ (tickets es).getLast? = some t
  withdrawn : ∀ t, s.withdrawn = some t → t ≤ lastTicket es ∧ (c = .waiting → t < lastTicket es)
  cause : ∀ e, s.terminal = some e → e = .endOfStream ∨ ∃ reason, e = .faulted reason

namespace Keeps

theorem fresh : Keeps [] .idle {} := ⟨nofun, nofun, nofun, nofun⟩

/-- An event that issues no ticket, after which the consumer waits as before or has no ticket requested. -/
theorem keep (h : Keeps es c s) (ht : e.ticket? = none) (hclosed : s'.closed = true → c' = .gone)
    (hr : s'.requested = none ∨ s'.requested = s.requested ∧ (s.requested.isSome = true → c' = c))
    (hw : s'.withdrawn = none ∨ s'.withdrawn = s.withdrawn) (hc : c' = .waiting → c = .waiting)
    (hcause : s'.terminal = s.terminal) : Keeps (es ++ [e]) c' s' := by
  have htickets : tickets (es ++ [e]) = tickets es := by simp [tickets_concat, ht]
  have hlast : lastTicket (es ++ [e]) = lastTicket es := by simp [lastTicket_concat, ht]
  refine ⟨hclosed, ?_, ?_, ?_⟩
  · intro t hrequested
    rcases hr with hnone | ⟨hsame, hc⟩
    · rw [hnone] at hrequested
      cases hrequested
    · rw [hsame] at hrequested
      rw [htickets, hc (by rw [hrequested]; rfl)]
      exact h.requested t hrequested
  · intro t hwithdrawn
    rcases hw with hnone | hsame
    · rw [hnone] at hwithdrawn
      cases hwithdrawn
    · rw [hsame] at hwithdrawn
      obtain ⟨hle, hlt⟩ := h.withdrawn t hwithdrawn
      rw [hlast]
      exact ⟨hle, fun hwaiting => hlt (hc hwaiting)⟩
  · rw [hcause]
    exact h.cause

theorem acts (h : Keeps es c s) {a : Act} {r : ActResult} (ha : Acts s a r s') :
    Keeps (es ++ [.acted a r]) c s' := by
  cases ha with
  | deliver => exact h.keep rfl h.present (.inl rfl) (.inl rfl) id rfl
  | @finish a e ha hs =>
    obtain ⟨hclosed, hrequested, hwithdrawn, -⟩ :=
      h.keep (e := .acted a .done) rfl h.present (.inr ⟨rfl, fun _ => rfl⟩) (.inr rfl) id rfl
    refine ⟨hclosed, hrequested, hwithdrawn, fun e' he' => ?_⟩
    cases he'
    cases a with
    | endOfStream => cases ha; exact .inl rfl
    | fault reason => cases ha; exact .inr ⟨reason, rfl⟩
    | poll | look | publish | overflow => cases ha
  | _ => exact h.keep rfl h.present (.inr ⟨rfl, fun _ => rfl⟩) (.inr rfl) id rfl

theorem moves (h : Keeps es c s) (ha : Agrees es s) (hr : Remembers es c s) (hm : Moves c s e c' s') :
    Keeps (es ++ [e]) c' s' := by
  cases hm with
  | still => exact h.keep rfl h.present (.inr ⟨rfl, fun _ => rfl⟩) (.inr rfl) id rfl
  | act ha => exact h.acts ha
  | hand hc hf =>
    obtain ⟨-, hrequested, -⟩ := ha.held (by rw [hf]; rfl)
    exact h.keep rfl (fun hclosed => absurd (h.present hclosed) hc) (.inl hrequested) (.inr rfl) nofun rfl
  | refuse hc | overflow hc =>
    subst hc
    exact h.keep rfl h.present (.inr ⟨rfl, fun _ => rfl⟩) (.inr rfl) id rfl
  | giveUp hc =>
    subst hc
    exact h.keep rfl (fun hclosed => by cases h.present hclosed) (.inl rfl) (.inr rfl) nofun rfl
  | drop hc =>
    exact h.keep rfl (fun _ => rfl) (.inl rfl) (.inr rfl) nofun rfl
  | issue hc hf ht =>
    subst hc
    have hlast : lastTicket (es ++ [.issued s.nextTicket]) = lastTicket es + 1 :=
      lastTicket_concat.trans hr.next
    refine ⟨fun hclosed => (by cases h.present hclosed), fun t hrequested => ⟨rfl, ?_⟩, ?_, h.cause⟩
    · cases hrequested
      rw [tickets_concat]
      exact List.getLast?_concat ..
    · intro t hwithdrawn
      obtain ⟨hle, -⟩ := h.withdrawn t hwithdrawn
      rw [hlast]
      exact ⟨Nat.le_succ_of_le hle, fun _ => Nat.lt_succ_of_le hle⟩
  | expire hc =>
    subst hc
    have hsame : lastTicket (es ++ [.pulled (.error .timeout)]) = lastTicket es := lastTicket_concat
    refine ⟨fun hclosed => (by cases h.present hclosed), nofun, ?_, h.cause⟩
    intro t hrequested
    obtain ⟨-, hlast⟩ := h.requested t hrequested
    rw [hsame, lastTicket, hlast]
    exact ⟨Nat.le_refl _, nofun⟩

end Keeps

theorem Reaches.keeps (h : Reaches es c s) : Keeps es c s := by
  induction h with
  | fresh => exact .fresh
  | move h hm ih => exact ih.moves h.agrees h.remembers hm

/-- The consumer is there as long as a call is open, so only a cause can have ended the stream. -/
theorem Reaches.isClosed_of_waiting (h : Reaches es .waiting s) (ht : s.terminal = none) :
    s.isClosed = false := by
  have hopen : s.closed = false := by
    cases hc : s.closed with
    | false => rfl
    | true => cases h.keeps.present hc
  simp [isClosed, hopen, ht]

/-! ## A last ticket without an answer -/

/-- No frame that answers the last ticket was delivered, nor any other since the ticket was issued. -/
def Unanswered (es : List Event) : Prop :=
  (∀ f ∈ deliveries es, f.ticket ≠ lastTicket es) ∧
    ∃ before after, es = before ++ .issued (lastTicket es) :: after ∧ deliveries after = []

theorem issuedAtDelivery_append_of_quiet {before after : List Event} (h : deliveries after = []) :
    issuedAtDelivery (before ++ after) = issuedAtDelivery before := by
  induction after using List.reverseRecOn with
  | nil => rw [List.append_nil]
  | append_singleton after e ih =>
    rw [deliveries_concat, List.append_eq_nil_iff, Option.toList_eq_nil_iff] at h
    rw [← List.append_assoc, issuedAtDelivery_concat_of_none h.2, ih h.1]

theorem issuedAtDelivery_le (es : List Event) : issuedAtDelivery es ≤ (tickets es).length := by
  induction es using List.reverseRecOn with
  | nil => exact Nat.le_refl _
  | append_singleton es e ih =>
    cases hd : e.delivery? with
    | none =>
      rw [issuedAtDelivery_concat_of_none hd, tickets_concat, List.length_append]
      exact Nat.le_add_right_of_le ih
    | some f => rw [issuedAtDelivery_concat_of_some hd]

/-- The ticket that is issued last, and what was issued and delivered since. -/
theorem exists_last_issued (h : issuedAtDelivery es < (tickets es).length) :
    ∃ before after t, es = before ++ .issued t :: after ∧ tickets after = [] ∧ deliveries after = [] := by
  induction es using List.reverseRecOn with
  | nil => cases h
  | append_singleton es e ih =>
    cases hd : e.delivery? with
    | some f => exact absurd h (by rw [issuedAtDelivery_concat_of_some hd]; exact Nat.lt_irrefl _)
    | none =>
      cases ht : e.ticket? with
      | some t =>
        cases e with
        | issued u => exact ⟨es, [], u, rfl, rfl, rfl⟩
        | pulled | acted | dropped | idle => cases ht
      | none =>
        rw [issuedAtDelivery_concat_of_none hd, tickets_concat, ht, Option.toList_none, List.append_nil] at h
        obtain ⟨before, after, t, rfl, hissued, hdelivered⟩ := ih h
        refine ⟨before, after ++ [e], t, by simp, ?_, ?_⟩
        · rw [tickets_concat, hissued, ht]
          rfl
        · rw [deliveries_concat, hdelivered, hd]
          rfl

theorem Reaches.unanswered_iff (h : Reaches es c s) :
    Unanswered es ↔ issuedAtDelivery es < lastTicket es := by
  have hcount := h.remembers.count
  constructor
  · rintro ⟨-, before, after, hes, hafter⟩
    have hquiet : deliveries (.issued (lastTicket es) :: after) = [] := hafter
    have hat : issuedAtDelivery es = issuedAtDelivery before := by
      rw [hes]
      exact issuedAtDelivery_append_of_quiet hquiet
    have hlength : (tickets es).length = (tickets before).length + ((tickets after).length + 1) := by
      rw [hes, tickets, List.filterMap_append, List.length_append]
      rfl
    have hle := issuedAtDelivery_le before
    omega
  · intro hlt
    refine ⟨?_, ?_⟩
    · intro f hf heq
      have hle := h.ascending.2 f hf
      omega
    · obtain ⟨before, after, t, hes, hissued, hdelivered⟩ := exists_last_issued (hcount ▸ hlt)
      have hlast : lastTicket es = t := by
        rw [hes, lastTicket, tickets, List.filterMap_append]
        show ((tickets before ++ t :: tickets after).getLast?).getD 0 = t
        rw [hissued, List.getLast?_concat]
        rfl
      exact ⟨before, after, hlast ▸ hes, hdelivered⟩

/-! ## The state and the slot -/

theorem tickets_eq_nil_iff (h : Reaches es c s) : tickets es = [] ↔ lastTicket es = 0 := by
  rw [← h.remembers.count, List.length_eq_zero_iff]

/-- A slot waits exactly if it holds no frame, its stream is not over, and its last ticket, if there is one,
is unanswered. -/
theorem Reaches.waiting_iff (h : Reaches es c s) :
    s.state = .waiting ↔ s.frame = none ∧ s.terminal = none ∧ (tickets es = [] ∨ Unanswered es) := by
  rw [h.unanswered_iff, tickets_eq_nil_iff h]
  constructor
  · exact h.agrees.waiting
  · rintro ⟨-, hterminal, htickets⟩
    cases hs : s.state with
    | waiting => rfl
    | ready =>
      obtain ⟨hpos, hat⟩ := h.agrees.ready hs
      omega
    | endOfStream | faulted =>
      obtain ⟨-, e, he, -⟩ := h.settled (by rw [hs]; rfl)
      rw [hterminal] at he
      cases he

/-- **The state never contradicts the slot.** After any run: a slot that holds a frame is seen to be ready,
and no ticket of it is requested or withdrawn. It is seen to wait exactly if it holds no frame, its stream is
not over, and either no ticket was ever issued, or no frame was delivered for the last one nor any other since
it was issued. Where the end of the stream is seen, its cause is of that kind and no frame is held. The
ticket that is requested is the last one issued, and one that is withdrawn is older. -/
theorem state_agrees (sts : List Step) :
    let es := (run sts .idle {}).1
    let s := (run sts .idle {}).2.2
    (∀ f, s.frame = some f → s.state = .ready ∧ s.requested = none ∧ s.withdrawn = none) ∧
      (s.state = .waiting ↔
        s.frame = none ∧ s.terminal = none ∧ (tickets es = [] ∨ Unanswered es)) ∧
      (s.state = .endOfStream → s.terminal = some .endOfStream ∧ s.frame = none) ∧
      (s.state = .faulted → (∃ reason, s.terminal = some (.faulted reason)) ∧ s.frame = none) ∧
      ∀ r, s.requested = some r →
        (tickets es).getLast? = some r ∧ ∀ w, s.withdrawn = some w → w < r := by
  intro es s
  have h : Reaches es (run sts .idle {}).2.1 s := reaches_run sts
  have hkeeps := h.keeps
  refine ⟨?_, h.waiting_iff, ?_, ?_, ?_⟩
  · intro f hf
    exact h.agrees.held (by rw [hf]; rfl)
  · intro hstate
    obtain ⟨hframe, e, he, hseen⟩ := h.settled (by rw [hstate]; rfl)
    rw [hstate] at hseen
    rcases hkeeps.cause e he with rfl | ⟨reason, rfl⟩
    · exact ⟨he, hframe⟩
    · cases hseen
  · intro hstate
    obtain ⟨hframe, e, he, hseen⟩ := h.settled (by rw [hstate]; rfl)
    rw [hstate] at hseen
    rcases hkeeps.cause e he with rfl | ⟨reason, rfl⟩
    · cases hseen
    · exact ⟨⟨reason, he⟩, hframe⟩
  · intro r hr
    obtain ⟨hwaiting, hlast⟩ := hkeeps.requested r hr
    refine ⟨hlast, ?_⟩
    intro w hw
    have hlt := (hkeeps.withdrawn w hw).2 hwaiting
    rwa [lastTicket, hlast] at hlt

end Slot
end FrameFeed
