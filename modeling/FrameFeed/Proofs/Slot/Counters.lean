import FrameFeed.Proofs.Slot.Claims
import FrameFeed.Proofs.Slot.Reports
import Mathlib.Data.List.Perm.Subperm
/-!
# What a slot counts

Each counter of a slot is a count over its history: `Moves.counts` is what one move adds to all of them, and
`Counted` what they come to. Which frames are late is decided by the withdrawn ticket that is kept; the
history says that a frame is late if its request had timed out before (`isLate`). A request that times out is
never answered before it does, so a frame is late exactly if its request times out at any time
(`GaveUp.late_iff`), and every ticket is counted at most once among the frames in time and the timeouts
(`counters_add_up`).
-/
namespace FrameFeed
namespace Slot

variable {es : List Event} {c c' : Consumer} {s s' : Slot} {e : Event}

/-! ## Counting in a history -/

/-- Every event with what came before it. -/
def moments (past : List Event) : List Event → List (List Event × Event)
  | [] => []
  | e :: es => (past, e) :: moments (past ++ [e]) es

/-- What a producer was told of its frame. -/
def Event.published? : Event → Option Publish
  | .acted (.publish ..) (.published p) => some p
  | _ => none

/-- A call of the consumer timed out. -/
def Event.timesOut : Event → Bool
  | .pulled (.error .timeout) => true
  | _ => false

/-- What producers were told of their frames. -/
def publications (es : List Event) : List Publish := es.filterMap Event.published?

/-- The tickets of the calls that timed out: of each the last one issued till then. -/
def givenUp (es : List Event) : List Nat :=
  (moments [] es).filterMap fun p => if p.2.timesOut then some (lastTicket p.1) else none

/-- The frames that were delivered, each with what came before. -/
def shipments (es : List Event) : List (List Event × PublishedFrame) :=
  (moments [] es).filterMap fun p => p.2.delivery?.map (p.1, ·)

/-- The request that a frame answers had timed out before the frame was delivered. -/
def isLate (p : List Event × PublishedFrame) : Bool := decide (p.2.ticket ∈ givenUp p.1)

/-- The reports of lost frames that came before the end of the stream. -/
def reportsAccepted (es : List Event) : Nat :=
  (moments [] es).countP fun p => p.2.reports && !p.1.any Event.ends

theorem moments_concat (past es : List Event) (e : Event) :
    moments past (es ++ [e]) = moments past es ++ [(past ++ es, e)] := by
  induction es generalizing past with
  | nil => simp [moments]
  | cons e' es ih => simp [moments, ih]

theorem publications_concat : publications (es ++ [e]) = publications es ++ e.published?.toList := by
  cases h : e.published? <;> simp [publications, h]

theorem givenUp_concat :
    givenUp (es ++ [e]) = givenUp es ++ if e.timesOut then [lastTicket es] else [] := by
  cases h : e.timesOut <;> simp [givenUp, moments_concat, h]

theorem shipments_concat :
    shipments (es ++ [e]) = shipments es ++ e.delivery?.toList.map (es, ·) := by
  cases h : e.delivery? <;> simp [shipments, moments_concat, h]

theorem reportsAccepted_concat : reportsAccepted (es ++ [e]) =
    reportsAccepted es + (e.reports && !es.any Event.ends).toNat := by
  cases h : e.reports && !es.any Event.ends <;> simp [reportsAccepted, moments_concat, h]

theorem countP_timesOut_concat :
    (es ++ [e]).countP Event.timesOut = es.countP Event.timesOut + e.timesOut.toNat := by
  cases h : e.timesOut <;> simp [h]

theorem frames_shipments (es : List Event) : (shipments es).map (·.2) = deliveries es := by
  induction es using List.reverseRecOn with
  | nil => rfl
  | append_singleton es e ih =>
    rw [shipments_concat, deliveries_concat, List.map_append, ih]
    cases e.delivery? <;> rfl

theorem length_givenUp (es : List Event) : (givenUp es).length = es.countP Event.timesOut := by
  induction es using List.reverseRecOn with
  | nil => rfl
  | append_singleton es e ih =>
    rw [givenUp_concat, List.length_append, ih, countP_timesOut_concat]
    cases e.timesOut <;> rfl

theorem Event.count_published? (e : Event) :
    e.published?.toList.count .delivered = e.delivery?.toList.length := by
  unfold published? delivery?
  split
  · rename_i p
    cases p <;> simp
  · rename_i hne
    split
    · exact absurd rfl (hne _ _ _ _)
    · rfl

/-- A frame is delivered when its producer is told so. -/
theorem count_delivered (es : List Event) : (publications es).count .delivered = (deliveries es).length := by
  induction es using List.reverseRecOn with
  | nil => rfl
  | append_singleton es e ih =>
    rw [publications_concat, deliveries_concat, List.count_append, List.length_append, ih,
      e.count_published?]

/-- A frame for which the stream was not over was delivered or discarded. -/
theorem count_open (l : List Publish) :
    l.countP (· ≠ .closed) = l.count .delivered + l.count .discarded := by
  induction l with
  | nil => rfl
  | cons p l ih =>
    rw [List.countP_cons, List.count_cons, List.count_cons, ih]
    cases p <;> simp <;> omega

/-! ## What a move adds -/

/-- What a move adds to the counters. -/
theorem Moves.counts (hm : Moves c s e c' s') (hk : Keeps es c s) : s'.stats =
    { requests := s.stats.requests + e.ticket?.toList.length
      delivered := s.stats.delivered + e.delivery?.toList.length
      late := s.stats.late + e.delivery?.toList.countP fun f => s.withdrawn = some f.ticket
      discarded := s.stats.discarded + e.published?.toList.count .discarded
      timeouts := s.stats.timeouts + e.timesOut.toNat
      overflows := s.stats.overflows + (e.reports && s.terminal.isNone).toNat } := by
  cases hm with
  | still | hand | overflow | issue | expire | drop => rfl
  | refuse _ _ ht | giveUp _ _ ht => rcases hk.cause _ ht with rfl | ⟨reason, rfl⟩ <;> rfl
  | act ha =>
    cases ha with
    | pollClosed | pollNothing | claim | look | publishClosed | discard => rfl
    | overflowOver hs =>
      have hreport : ((Event.acted .overflow .done).reports && s.terminal.isNone) = false := by
        rw [Option.isNone_eq_false_iff.2 hs, Bool.and_false]
      rw [hreport]
      rfl
    | overflow hs => rw [hs]; rfl
    | @deliver t =>
      by_cases hw : s.withdrawn = some t <;>
        simp [hw, Event.delivery?, Event.ticket?, Event.published?, Event.timesOut, Event.reports]
    | endOver ha | finish ha =>
      rename_i a _ _
      cases a with
      | endOfStream | fault => rfl
      | poll | look | publish | overflow => cases ha

/-! ## Calls that timed out -/

theorem Moves.ticket_eq (hm : Moves c s e c' s') {t : Nat} (ht : e.ticket? = some t) :
    t = s.nextTicket := by
  cases hm with
  | issue => cases ht; rfl
  | _ => cases ht

/-- Tickets count from one, without a gap. -/
theorem Reaches.tickets_eq (h : Reaches es c s) : tickets es = List.range' 1 (lastTicket es) := by
  induction h with
  | fresh => rfl
  | @move es c c' s s' e h hm ih =>
    rw [tickets_concat, lastTicket_concat]
    cases ht : e.ticket? with
    | none => simpa using ih
    | some t =>
      have hnext : t = 1 + lastTicket es := by rw [hm.ticket_eq ht, h.remembers.next, Nat.add_comm]
      rw [Option.getD_some, Option.toList_some, ih, hnext, Nat.add_comm, List.range'_1_concat,
        Nat.add_comm]

theorem Reaches.mem_tickets (h : Reaches es c s) {t : Nat} : t ∈ tickets es ↔ 0 < t ∧ t ≤ lastTicket es := by
  rw [h.tickets_eq, List.mem_range'_1]
  omega

/-- What is known of the tickets of calls that timed out. -/
structure GaveUp (es : List Event) (c : Consumer) (s : Slot) : Prop where
  issued : ∀ t ∈ givenUp es, 0 < t ∧ t ≤ lastTicket es ∧ (c = .waiting → t < lastTicket es)
  ascending : (givenUp es).Pairwise (· < ·)
  withdrawn : ∀ t, s.withdrawn = some t → t ∈ givenUp es
  late_iff : ∀ p ∈ shipments es, isLate p = true ↔ p.2.ticket ∈ givenUp es

namespace GaveUp

theorem fresh : GaveUp [] .idle {} := ⟨nofun, .nil, nofun, nofun⟩

/-- The withdrawn ticket is the one among those a frame is taken for whose call timed out. -/
theorem withdrawn_iff (h : GaveUp es c s) (hk : Keeps es c s) {t : Nat}
    (ht : s.requested = some t ∨ s.withdrawn = some t) : s.withdrawn = some t ↔ t ∈ givenUp es := by
  refine ⟨h.withdrawn t, fun hmem => ?_⟩
  rcases ht with hr | hw
  · obtain ⟨hwaiting, hlast⟩ := hk.requested t hr
    have hlt := (h.issued t hmem).2.2 hwaiting
    rw [lastTicket, hlast] at hlt
    exact absurd hlt (Nat.lt_irrefl _)
  · exact hw

/-- An event that is no timeout and delivers nothing. If it opens a call, it issues a ticket. -/
theorem keep (h : GaveUp es c s) (ht : e.timesOut = false) (hd : e.delivery? = none)
    (hlast : lastTicket es ≤ lastTicket (es ++ [e]))
    (hc : c' = .waiting → c = .waiting ∨ lastTicket es < lastTicket (es ++ [e]))
    (hw : s'.withdrawn = s.withdrawn) : GaveUp (es ++ [e]) c' s' := by
  have hsame : givenUp (es ++ [e]) = givenUp es := by simp [givenUp_concat, ht]
  have hshipped : shipments (es ++ [e]) = shipments es := by simp [shipments_concat, hd]
  refine ⟨?_, ?_, ?_, ?_⟩
  · rw [hsame]
    intro t hmem
    obtain ⟨hpos, hle, hlt⟩ := h.issued t hmem
    refine ⟨hpos, Nat.le_trans hle hlast, fun hwaiting => ?_⟩
    rcases hc hwaiting with hbefore | hnew
    · exact Nat.lt_of_lt_of_le (hlt hbefore) hlast
    · exact Nat.lt_of_le_of_lt hle hnew
  · rw [hsame]
    exact h.ascending
  · rw [hsame, hw]
    exact h.withdrawn
  · rw [hsame, hshipped]
    exact h.late_iff

theorem deliver (h : GaveUp es c s) {f : PublishedFrame} (ht : e.timesOut = false)
    (hd : e.delivery? = some f) (hw : s'.withdrawn = none) : GaveUp (es ++ [e]) c s' := by
  have hsame : givenUp (es ++ [e]) = givenUp es := by simp [givenUp_concat, ht]
  have hlast : lastTicket (es ++ [e]) = lastTicket es := by
    rw [lastTicket_concat, Event.ticket?_of_delivery? hd, Option.getD_none]
  refine ⟨?_, ?_, ?_, ?_⟩
  · rw [hsame, hlast]
    exact h.issued
  · rw [hsame]
    exact h.ascending
  · rw [hw]
    exact nofun
  · rw [hsame, shipments_concat, hd]
    intro p hp
    rcases List.mem_append.1 hp with hp | hp
    · exact h.late_iff p hp
    · rw [Option.toList_some, List.map_singleton, List.mem_singleton] at hp
      subst hp
      exact decide_eq_true_iff

/-- The last ticket is given up. No frame was delivered for it, since nothing was since it was issued. -/
theorem expire (h : GaveUp es .waiting s) (hreach : Reaches es .waiting s) (hf : s.frame = none)
    (ht : s.terminal = none) (hw : s'.withdrawn = s.requested) :
    GaveUp (es ++ [.pulled (.error .timeout)]) .idle s' := by
  have hopen := hreach.isClosed_of_waiting ht
  have hasking := hreach.remembers.asking hopen rfl hf
  have hlast : lastTicket (es ++ [.pulled (.error .timeout)]) = lastTicket es := lastTicket_concat
  have hmore : givenUp (es ++ [.pulled (.error .timeout)]) = givenUp es ++ [lastTicket es] :=
    givenUp_concat
  have hshipped : shipments (es ++ [.pulled (.error .timeout)]) = shipments es := by
    rw [shipments_concat]
    exact List.append_nil _
  refine ⟨?_, ?_, ?_, ?_⟩
  · rw [hmore, hlast]
    intro t hmem
    refine ⟨?_, ?_, nofun⟩ <;> rcases List.mem_append.1 hmem with hmem | hmem
    · exact (h.issued t hmem).1
    · rw [List.mem_singleton.1 hmem]
      exact Nat.lt_of_le_of_lt (Nat.zero_le _) hasking
    · exact (h.issued t hmem).2.1
    · exact Nat.le_of_eq (List.mem_singleton.1 hmem)
  · rw [hmore, List.pairwise_append]
    refine ⟨h.ascending, List.pairwise_singleton _ _, ?_⟩
    intro t hmem u hu
    rw [List.mem_singleton.1 hu]
    exact (h.issued t hmem).2.2 rfl
  · intro t hrequested
    rw [hw] at hrequested
    obtain ⟨-, hticket⟩ := hreach.keeps.requested t hrequested
    rw [hmore, lastTicket, hticket]
    simp
  · rw [hmore, hshipped]
    intro p hp
    have hdelivered : p.2 ∈ deliveries es := by
      rw [← frames_shipments]
      exact List.mem_map_of_mem hp
    have hle := hreach.ascending.2 p.2 hdelivered
    have hne : p.2.ticket ≠ lastTicket es := by omega
    rw [h.late_iff p hp]
    simp [hne]

theorem moves (h : GaveUp es c s) (hreach : Reaches es c s) (hm : Moves c s e c' s') :
    GaveUp (es ++ [e]) c' s' := by
  have hlast := lastTicket_le_concat hreach.remembers hm
  cases hm with
  | still => exact h.keep rfl rfl hlast .inl rfl
  | hand | overflow | drop => exact h.keep rfl rfl hlast nofun rfl
  | refuse _ _ ht | giveUp _ _ ht =>
    refine h.keep ?_ rfl hlast nofun rfl
    rcases hreach.keeps.cause _ ht with rfl | ⟨reason, rfl⟩ <;> rfl
  | issue =>
    refine h.keep rfl rfl hlast (fun _ => .inr ?_) rfl
    have hnew : lastTicket (es ++ [.issued s.nextTicket]) = s.nextTicket := lastTicket_concat
    rw [hnew, hreach.remembers.next]
    exact Nat.lt_succ_self _
  | expire hc hf ht =>
    subst hc
    exact h.expire hreach hf ht rfl
  | act ha =>
    cases ha with
    | deliver => exact h.deliver rfl rfl rfl
    | endOver | finish => rename_i a _ _ _; exact h.keep rfl (by cases a <;> rfl) hlast .inl rfl
    | _ => exact h.keep rfl rfl hlast .inl rfl

end GaveUp

theorem Reaches.gaveUp (h : Reaches es c s) : GaveUp es c s := by
  induction h with
  | fresh => exact .fresh
  | move h hm ih => exact ih.moves h hm

/-! ## The counters -/

/-- The counters of a slot are counts over its history. -/
structure Counted (es : List Event) (s : Slot) : Prop where
  requests : s.stats.requests = (tickets es).length
  delivered : s.stats.delivered = (deliveries es).length
  late : s.stats.late = (shipments es).countP isLate
  discarded : s.stats.discarded = (publications es).count .discarded
  timeouts : s.stats.timeouts = es.countP Event.timesOut
  overflows : s.stats.overflows = reportsAccepted es

theorem Counted.moves (h : Counted es s) (hreach : Reaches es c s) (hm : Moves c s e c' s') :
    Counted (es ++ [e]) s' := by
  have hcounts := hm.counts hreach.keeps
  have hlate : (e.delivery?.toList.countP fun f => s.withdrawn = some f.ticket) =
      (e.delivery?.toList.map (es, ·)).countP isLate := by
    cases hd : e.delivery? with
    | none => rfl
    | some f =>
      have hiff := hreach.gaveUp.withdrawn_iff hreach.keeps (hm.ticket_of_delivery hd).2
      simp [List.countP_singleton, isLate, hiff]
  have hended : s.terminal.isNone = !es.any Event.ends := by
    rw [hreach.hears.ended, Option.not_isSome]
  refine ⟨?_, ?_, ?_, ?_, ?_, ?_⟩
  · rw [hcounts, tickets_concat, List.length_append, ← h.requests]
  · rw [hcounts, deliveries_concat, List.length_append, ← h.delivered]
  · rw [hcounts, shipments_concat, List.countP_append, ← h.late, ← hlate]
  · rw [hcounts, publications_concat, List.count_append, ← h.discarded]
  · rw [hcounts, countP_timesOut_concat, ← h.timeouts]
  · rw [hcounts, reportsAccepted_concat, ← h.overflows, hended]

theorem Reaches.counted (h : Reaches es c s) : Counted es s := by
  induction h with
  | fresh => exact ⟨rfl, rfl, rfl, rfl, rfl, rfl⟩
  | move h hm ih => exact ih.moves h hm

/-! ## Every ticket once -/

/-- The tickets of the frames that were delivered. -/
def answered (es : List Event) : List Nat := (deliveries es).map PublishedFrame.ticket

theorem Reaches.nodup_answered (h : Reaches es c s) : (answered es).Nodup :=
  List.Pairwise.imp Nat.ne_of_lt (List.pairwise_map.2 h.ascending.1)

theorem Reaches.answered_pos (h : Reaches es c s) : ∀ t ∈ answered es, 0 < t := by
  induction h with
  | fresh => exact nofun
  | @move es c c' s s' e h hm ih =>
    intro t ht
    rw [answered, deliveries_concat, List.map_append, List.mem_append] at ht
    rcases ht with ht | ht
    · exact ih t ht
    · cases hd : e.delivery? with
      | none => simp [hd] at ht
      | some f =>
        obtain ⟨hopen, hticket⟩ := hm.ticket_of_delivery hd
        obtain ⟨hlt, -⟩ := (h.remembers.answerable hopen f.ticket).1 hticket
        simp only [hd, Option.toList_some, List.map_singleton, List.mem_singleton] at ht
        omega

theorem Reaches.answered_subset (h : Reaches es c s) : answered es ⊆ tickets es := by
  intro t ht
  obtain ⟨f, hf, rfl⟩ := List.mem_map.1 ht
  exact h.mem_tickets.2
    ⟨h.answered_pos _ ht, Nat.le_trans (h.ascending.2 f hf) h.remembers.answered⟩

theorem Reaches.nodup_givenUp (h : Reaches es c s) : (givenUp es).Nodup :=
  h.gaveUp.ascending.imp Nat.ne_of_lt

theorem Reaches.givenUp_subset (h : Reaches es c s) : givenUp es ⊆ tickets es := by
  intro t ht
  obtain ⟨hpos, hle, -⟩ := h.gaveUp.issued t ht
  exact h.mem_tickets.2 ⟨hpos, hle⟩

/-- The late frames are those whose requests time out at any time. -/
theorem Reaches.countP_isLate (h : Reaches es c s) :
    (shipments es).countP isLate = (answered es).countP (· ∈ givenUp es) := by
  rw [answered, ← frames_shipments, List.map_map, List.countP_map]
  refine List.countP_congr fun p hp => ?_
  simpa using h.gaveUp.late_iff p hp

/-- Of two lists of different numbers each within a third, the numbers of one that are not in the other and
those of the other are all different. -/
theorem length_sub_countP_add_length_le {l m n : List Nat} (hl : l.Nodup) (hm : m.Nodup) (hln : l ⊆ n)
    (hmn : m ⊆ n) : l.length - l.countP (· ∈ m) + m.length ≤ n.length := by
  have hrest : (l.filter (· ∉ m)).length = l.length - l.countP (· ∈ m) := by
    have hsplit := List.length_eq_countP_add_countP (fun t => decide (t ∈ m)) (l := l)
    rw [← List.countP_eq_length_filter]
    simp only [decide_eq_true_eq] at hsplit ⊢
    omega
  have hnodup : (l.filter (· ∉ m) ++ m).Nodup := by
    refine List.nodup_append.2 ⟨hl.filter _, hm, ?_⟩
    intro t ht u hu
    rintro rfl
    have hnot := (List.mem_filter.1 ht).2
    simp [hu] at hnot
  have hsub : l.filter (· ∉ m) ++ m ⊆ n :=
    List.append_subset.2 ⟨List.Subset.trans (List.filter_subset_self l) hln, hmn⟩
  have hle := (List.subperm_of_subset hnodup hsub).length_le
  rwa [List.length_append, hrest] at hle

theorem countP_mem_le_length {l m : List Nat} (hl : l.Nodup) : l.countP (· ∈ m) ≤ m.length := by
  rw [List.countP_eq_length_filter]
  refine (List.subperm_of_subset (hl.filter _) ?_).length_le
  intro t ht
  simpa using (List.mem_filter.1 ht).2

/-- **The counters add up.** After any run the counters are what the history says: the tickets issued; the
frames that producers were told are delivered, and with the discarded ones all for which the stream was not
over; the calls that timed out; the reports that came before the end of the stream; and the delivered frames
whose request had timed out before. The delivered frames are those that were returned and the one that is
held. So no more frames are late than were delivered or calls timed out, none is delivered without a request,
and the frames in time and the timeouts together are no more than the requests. -/
theorem counters_add_up (sts : List Step) :
    let es := (run sts .idle {}).1
    let s := (run sts .idle {}).2.2
    s.stats.requests = (tickets es).length ∧
      s.stats.delivered = (publications es).count .delivered ∧
      s.stats.delivered + s.stats.discarded = (publications es).countP (· ≠ .closed) ∧
      s.stats.delivered = (returns es).length + s.frame.toList.length ∧
      s.stats.timeouts = es.countP Event.timesOut ∧
      s.stats.overflows = reportsAccepted es ∧
      s.stats.late = (shipments es).countP isLate ∧
      s.stats.late ≤ s.stats.delivered ∧ s.stats.late ≤ s.stats.timeouts ∧
      s.stats.delivered ≤ s.stats.requests ∧
      s.stats.delivered - s.stats.late + s.stats.timeouts ≤ s.stats.requests := by
  intro es s
  have h : Reaches es (run sts .idle {}).2.1 s := reaches_run sts
  have hcounted := h.counted
  have hdelivered : s.stats.delivered = (answered es).length := by
    rw [hcounted.delivered, answered, List.length_map]
  have hlate : s.stats.late = (answered es).countP (· ∈ givenUp es) := by
    rw [hcounted.late, h.countP_isLate]
  have htimeouts : s.stats.timeouts = (givenUp es).length := by
    rw [hcounted.timeouts, length_givenUp]
  refine ⟨hcounted.requests, ?_, ?_, ?_, hcounted.timeouts, hcounted.overflows, hcounted.late, ?_, ?_, ?_, ?_⟩
  · rw [hcounted.delivered, count_delivered]
  · rw [count_open, count_delivered, hcounted.delivered, hcounted.discarded]
  · rw [hcounted.delivered, h.deliveries_eq, List.length_append]
  · rw [hlate, hdelivered]
    exact List.countP_le_length
  · rw [hlate, htimeouts]
    exact countP_mem_le_length h.nodup_answered
  · rw [hdelivered, hcounted.requests]
    exact (List.subperm_of_subset h.nodup_answered h.answered_subset).length_le
  · rw [hdelivered, hlate, htimeouts, hcounted.requests]
    exact length_sub_countP_add_length_le h.nodup_answered h.nodup_givenUp h.answered_subset h.givenUp_subset

end Slot
end FrameFeed
