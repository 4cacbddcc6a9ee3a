import FrameFeed.Proofs.Slot.Moves
import Mathlib.Data.List.DropRight
/-!
# What a slot remembers of its history

The history of a slot tells which tickets were issued, which frames were delivered and handed out,
and whether the stream is over. A slot keeps two tickets of all that, the one the consumer waits on
and the one it gave up last. `Reaches.remembers` is what they mean: they are the last tickets issued
since the last delivery, or nothing if that delivery came later.
-/
namespace FrameFeed
namespace Slot

/-! ## Reading a history -/

/-- The frame that a producer was told is delivered. -/
def Event.delivery? : Event → Option PublishedFrame
  | .acted (.publish t m d) (.published .delivered) => some ⟨m, d, t⟩
  | _ => none

/-- The frame that a call of the consumer returned. -/
def Event.return? : Event → Option PublishedFrame
  | .pulled (.ok f) => some f
  | _ => none

def Event.ticket? : Event → Option Nat
  | .issued t => some t
  | _ => none

/-- The consumer went away, or a producer ended the stream. -/
def Event.closes : Event → Bool
  | .dropped | .acted .endOfStream _ | .acted (.fault _) _ => true
  | _ => false

def deliveries (es : List Event) : List PublishedFrame := es.filterMap Event.delivery?

def returns (es : List Event) : List PublishedFrame := es.filterMap Event.return?

def tickets (es : List Event) : List Nat := es.filterMap Event.ticket?

/-- The last ticket issued; tickets count from one. -/
def lastTicket (es : List Event) : Nat := (tickets es).getLast?.getD 0

/-- How many tickets had been issued at the last delivery. -/
def issuedAtDelivery (es : List Event) : Nat :=
  (tickets (es.rdropWhile fun e => e.delivery?.isNone)).length

/-- The stream is over: no producer is heard any more. -/
def isOver (es : List Event) : Bool := es.any Event.closes

section
variable {es : List Event} {e : Event}

theorem deliveries_concat : deliveries (es ++ [e]) = deliveries es ++ e.delivery?.toList := by
  cases h : e.delivery? <;> simp [deliveries, h]

theorem returns_concat : returns (es ++ [e]) = returns es ++ e.return?.toList := by
  cases h : e.return? <;> simp [returns, h]

theorem tickets_concat : tickets (es ++ [e]) = tickets es ++ e.ticket?.toList := by
  cases h : e.ticket? <;> simp [tickets, h]

theorem lastTicket_concat : lastTicket (es ++ [e]) = e.ticket?.getD (lastTicket es) := by
  cases h : e.ticket? <;> simp [lastTicket, tickets_concat, h]

theorem Event.ticket?_of_delivery? {f : PublishedFrame} (h : e.delivery? = some f) :
    e.ticket? = none := by
  cases e with
  | acted => rfl
  | _ => cases h

theorem issuedAtDelivery_concat_of_none (h : e.delivery? = none) :
    issuedAtDelivery (es ++ [e]) = issuedAtDelivery es := by
  rw [issuedAtDelivery, List.rdropWhile_concat_pos _ _ _ (by simp [h]), issuedAtDelivery]

theorem issuedAtDelivery_concat_of_some {f : PublishedFrame} (h : e.delivery? = some f) :
    issuedAtDelivery (es ++ [e]) = (tickets (es ++ [e])).length := by
  rw [issuedAtDelivery, List.rdropWhile_concat_neg _ _ _ (by simp [h])]

theorem isOver_concat : isOver (es ++ [e]) = (isOver es || e.closes) := by
  simp [isOver]

end

/-! ## What a slot remembers -/

/-- The last ticket that is not being waited on. -/
def lastGivenUp (es : List Event) (c : Consumer) : Nat :=
  if c = .waiting then lastTicket es - 1 else lastTicket es

theorem lastGivenUp_idle (es : List Event) : lastGivenUp es .idle = lastTicket es := rfl

theorem lastGivenUp_le (es : List Event) (c : Consumer) : lastGivenUp es c ≤ lastTicket es := by
  unfold lastGivenUp; split <;> omega

/-- The counts of a history, and what a slot shows of them. -/
structure Tallies (es : List Event) (s : Slot) : Prop where
  count : (tickets es).length = lastTicket es
  next : s.nextTicket = lastTicket es + 1
  answered : issuedAtDelivery es ≤ lastTicket es
  closed : s.isClosed = isOver es
  held : s.frame.isSome = true → issuedAtDelivery es = lastTicket es

/-- A slot agrees with its history. -/
structure Remembers (es : List Event) (c : Consumer) (s : Slot) : Prop extends Tallies es s where
  gone : c = .gone → s.isClosed = true
  asking : s.isClosed = false → c = .waiting → s.frame = none → issuedAtDelivery es < lastTicket es
  requested : s.isClosed = false →
    s.requested = if c = .waiting ∧ issuedAtDelivery es < lastTicket es then some (lastTicket es) else none
  withdrawn : s.isClosed = false →
    s.withdrawn = if issuedAtDelivery es < lastGivenUp es c then some (lastGivenUp es c) else none

/-- An event that issues no ticket and delivers nothing leaves the counts as they are. -/
theorem Tallies.quiet {es : List Event} {s s' : Slot} {e : Event} (h : Tallies es s)
    (ht : e.ticket? = none) (hd : e.delivery? = none)
    (hc : s'.isClosed = (s.isClosed || e.closes)) (hn : s'.nextTicket = s.nextTicket)
    (hf : s'.frame.isSome → s.frame.isSome) :
    Tallies (es ++ [e]) s' ∧ lastTicket (es ++ [e]) = lastTicket es ∧
      issuedAtDelivery (es ++ [e]) = issuedAtDelivery es := by
  have hlast : lastTicket (es ++ [e]) = lastTicket es := by simp [lastTicket_concat, ht]
  have hat : issuedAtDelivery (es ++ [e]) = issuedAtDelivery es := issuedAtDelivery_concat_of_none hd
  refine ⟨⟨?_, ?_, ?_, ?_, ?_⟩, hlast, hat⟩
  · simp [tickets_concat, ht, hlast, h.count]
  · rw [hn, hlast, h.next]
  · rw [hat, hlast]; exact h.answered
  · rw [hc, h.closed, isOver_concat]
  · intro hf'; rw [hat, hlast]; exact h.held (hf hf')

namespace Remembers
variable {es : List Event} {c c' : Consumer} {s s' : Slot} {e : Event}

theorem fresh : Remembers [] .idle {} where
  count := rfl
  next := rfl
  answered := Nat.le_refl _
  closed := rfl
  held h := by cases h
  gone h := by cases h
  asking _ h := by cases h
  requested _ := rfl
  withdrawn _ := rfl

/-- The tickets that a slot would take a frame for. -/
theorem answerable (h : Remembers es c s) (ho : s.isClosed = false) (t : Nat) :
    (s.requested = some t ∨ s.withdrawn = some t) ↔ issuedAtDelivery es < t ∧ t ≤ lastTicket es ∧
      (t = lastTicket es ∨ t + 1 = lastTicket es ∧ c = .waiting) := by
  rw [h.requested ho, h.withdrawn ho, Option.ite_none_right_eq_some, Option.ite_none_right_eq_some]
  by_cases hc : c = .waiting
  · simp only [lastGivenUp, hc, if_true, true_and, and_true, Option.some.injEq]; omega
  · simp only [lastGivenUp, hc, if_false, false_and, and_false, or_false, false_or, Option.some.injEq]
    omega

/-! ## Every move keeps it -/

/-- Once the stream is over the tickets do not matter. -/
theorem of_closed (h : Tallies es s) (hs : s.isClosed = true) : Remembers es c s where
  toTallies := h
  gone _ := hs
  asking ho := by rw [hs] at ho; cases ho
  requested ho := by rw [hs] at ho; cases ho
  withdrawn ho := by rw [hs] at ho; cases ho

theorem close (h : Remembers es c s) (ht : e.ticket? = none) (hd : e.delivery? = none)
    (hc : s'.isClosed = (s.isClosed || e.closes)) (hs : s'.isClosed = true)
    (hn : s'.nextTicket = s.nextTicket) (hf : s'.frame.isSome → s.frame.isSome) :
    Remembers (es ++ [e]) c' s' :=
  of_closed (h.toTallies.quiet ht hd hc hn hf).1 hs

/-- An event that touches neither the tickets nor the frame leaves what is remembered. -/
theorem keep (h : Remembers es c s) (ht : e.ticket? = none) (hd : e.delivery? = none)
    (hc : e.closes = false) (hs : s'.isClosed = s.isClosed) (hn : s'.nextTicket = s.nextTicket)
    (hf : s'.frame = s.frame) (hr : s'.requested = s.requested) (hw : s'.withdrawn = s.withdrawn) :
    Remembers (es ++ [e]) c s' := by
  obtain ⟨htally, hlast, hat⟩ :=
    h.toTallies.quiet ht hd (by rw [hs, hc, Bool.or_false]) hn fun h' => hf ▸ h'
  have hgiven : lastGivenUp (es ++ [e]) c = lastGivenUp es c := by simp only [lastGivenUp, hlast]
  refine ⟨htally, ?_, ?_, ?_, ?_⟩
  · rw [hs]; exact h.gone
  · rw [hs, hf, hat, hlast]; exact h.asking
  · rw [hs, hr, hat, hlast]; exact h.requested
  · rw [hs, hw, hat, hgiven]; exact h.withdrawn

/-- A delivery answers every ticket there is. -/
theorem deliver (h : Remembers es c s) {f : PublishedFrame} (ht : e.ticket? = none)
    (hd : e.delivery? = some f) (hc : e.closes = false) (hs : s'.isClosed = s.isClosed)
    (hn : s'.nextTicket = s.nextTicket) (hf : s'.frame = some f) (hr : s'.requested = none)
    (hw : s'.withdrawn = none) : Remembers (es ++ [e]) c s' := by
  have hlast : lastTicket (es ++ [e]) = lastTicket es := by simp [lastTicket_concat, ht]
  have hcount : (tickets (es ++ [e])).length = lastTicket es := by simp [tickets_concat, ht, h.count]
  have hat : issuedAtDelivery (es ++ [e]) = lastTicket es := by
    rw [issuedAtDelivery_concat_of_some hd, hcount]
  have hgiven := lastGivenUp_le (es ++ [e]) c
  refine ⟨⟨hcount.trans hlast.symm, ?_, ?_, ?_, ?_⟩, ?_, ?_, ?_, ?_⟩
  · rw [hn, hlast, h.next]
  · omega
  · rw [hs, isOver_concat, hc, Bool.or_false, h.closed]
  · intro _; omega
  · rw [hs]; exact h.gone
  · intro _ _ hf'; rw [hf] at hf'; cases hf'
  · intro _; rw [hr, if_neg (by omega)]
  · intro _; rw [hw, if_neg (by omega)]

/-- The frame that is handed out answered every ticket there is. -/
theorem hand (h : Remembers es c s) {f : PublishedFrame} (hf : s.frame = some f) :
    Remembers (es ++ [.pulled (.ok f)]) .idle { s with frame := none, state := .ready } := by
  obtain ⟨htally, hlast, hat⟩ :
      Tallies (es ++ [.pulled (.ok f)]) { s with frame := none, state := .ready } ∧ _ ∧ _ :=
    h.toTallies.quiet rfl rfl (Bool.or_false _).symm rfl nofun
  have hheld : issuedAtDelivery es = lastTicket es := h.held (by simp [hf])
  have hgiven := lastGivenUp_le es c
  refine ⟨htally, nofun, fun _ => nofun, ?_, ?_⟩
  · intro ho
    rw [if_neg (by omega)]
    exact (h.requested ho).trans (if_neg (by omega))
  · intro ho
    rw [lastGivenUp_idle, if_neg (by omega)]
    exact (h.withdrawn ho).trans (if_neg (by omega))

theorem issue (h : Remembers es .idle s) (hf : s.frame = none) (hc : s'.isClosed = s.isClosed)
    (hn : s'.nextTicket = s.nextTicket + 1) (hf' : s'.frame = s.frame)
    (hr : s'.requested = some s.nextTicket) (hw : s'.withdrawn = s.withdrawn) :
    Remembers (es ++ [.issued s.nextTicket]) .waiting s' := by
  have hnext := h.next
  have hanswered := h.answered
  have hlast : lastTicket (es ++ [.issued s.nextTicket]) = lastTicket es + 1 := by
    rw [lastTicket_concat]; exact hnext
  have hat : issuedAtDelivery (es ++ [.issued s.nextTicket]) = issuedAtDelivery es :=
    issuedAtDelivery_concat_of_none rfl
  have hgiven : lastGivenUp (es ++ [.issued s.nextTicket]) .waiting = lastTicket es := by
    rw [lastGivenUp, if_pos rfl, hlast]; rfl
  refine ⟨⟨?_, ?_, ?_, ?_, ?_⟩, nofun, ?_, ?_, ?_⟩
  · rw [tickets_concat, hlast]; simp [Event.ticket?, h.count]
  · rw [hn, hlast, hnext]
  · omega
  · rw [hc, isOver_concat, h.closed]; exact (Bool.or_false _).symm
  · intro h'; rw [hf', hf] at h'; cases h'
  · intro _ _ _; omega
  · intro _; rw [hr, if_pos ⟨rfl, by omega⟩, hlast, hnext]
  · intro ho
    rw [hw, hat, hgiven, ← lastGivenUp_idle]
    exact h.withdrawn (hc ▸ ho)

/-- A call that misses its deadline makes its ticket the one given up last. -/
theorem expire (h : Remembers es .waiting s) (hf : s.frame = none) (hc : s'.isClosed = s.isClosed)
    (hn : s'.nextTicket = s.nextTicket) (hf' : s'.frame = s.frame) (hr : s'.requested = none)
    (hw : s'.withdrawn = s.requested) :
    Remembers (es ++ [.pulled (.error .timeout)]) .idle s' := by
  obtain ⟨htally, hlast, hat⟩ := h.toTallies.quiet (e := .pulled (.error .timeout)) rfl rfl
    (by rw [hc]; exact (Bool.or_false _).symm) hn fun h' => hf' ▸ h'
  refine ⟨htally, nofun, fun _ => nofun, ?_, ?_⟩
  · intro _; rw [hr, if_neg (by simp)]
  · intro ho
    have hasking := h.asking (hc ▸ ho) rfl hf
    rw [hw, h.requested (hc ▸ ho), if_pos ⟨rfl, hasking⟩, lastGivenUp_idle, if_pos (by omega), hlast]

theorem acts (h : Remembers es c s) {a : Act} {r : ActResult} (ha : Acts s a r s') :
    Remembers (es ++ [.acted a r]) c s' := by
  cases ha with
  | pollClosed | pollNothing | claim | look | publishClosed | discard | overflowOver | overflow =>
    exact h.keep rfl rfl rfl rfl rfl rfl rfl rfl
  | deliver => exact h.deliver rfl rfl rfl rfl rfl rfl rfl rfl
  | endOver ha hs =>
    have hcl : s.isClosed = true := by simp [isClosed, hs]
    exact h.close rfl (by cases a <;> rfl) (by simp [hcl]) hcl rfl id
  | finish ha hs =>
    have hcl : (Event.acted a .done).closes = true := by cases a <;> first | rfl | cases ha
    exact h.close rfl (by cases a <;> rfl) (by simp [hcl, isClosed]) (by simp [isClosed]) rfl id

theorem moves (h : Remembers es c s) (hm : Moves c s e c' s') : Remembers (es ++ [e]) c' s' := by
  cases hm with
  | still => exact h.keep rfl rfl rfl rfl rfl rfl rfl rfl
  | act ha => exact h.acts ha
  | hand hc hf => exact h.hand hf
  | refuse hc hf ht | giveUp hc hf ht =>
    have hcl : s.isClosed = true := by simp [isClosed, ht]
    exact h.close rfl rfl (Bool.or_false _).symm hcl rfl id
  | overflow hc hf ht ho => subst hc; exact h.keep rfl rfl rfl rfl rfl rfl rfl rfl
  | issue hc hf ht ho => subst hc; exact h.issue hf rfl rfl rfl rfl rfl
  | expire hc hf ht => subst hc; exact h.expire hf rfl rfl rfl rfl rfl
  | drop hc => exact h.close rfl rfl (Bool.or_true _).symm rfl rfl id

end Remembers

theorem Reaches.remembers {es : List Event} {c : Consumer} {s : Slot} (h : Reaches es c s) :
    Remembers es c s := by
  induction h with
  | fresh => exact .fresh
  | move _ hm ih => exact ih.moves hm

end Slot
end FrameFeed
