import FrameFeed.Proofs.Slot.History
/-!
# Claims

A producer that waits for a request polls until it finds one, the slot is closed or its own deadline has
passed; what the last poll found is what it gets. So the tickets handed out are those that polls find, and
it does not matter whose polls they are. A slot keeps only the last ticket found. It is enough: a request
is found once, by whoever polls first while the consumer waits on it (`Acts.polled_eq`), the tickets found
ascend over all producers, and a frame for a ticket that was just found is delivered (`claims_ascend`).
-/
namespace FrameFeed
namespace Slot

variable {es : List Event} {c c' : Consumer} {s s' : Slot} {e : Event} {t : Nat}

/-- The ticket that a producer found. -/
def Event.claim? : Event → Option Nat
  | .acted .poll (.polled (.ready t)) => some t
  | _ => none

/-- The tickets that producers found. -/
def claims (es : List Event) : List Nat := es.filterMap Event.claim?

theorem claims_concat : claims (es ++ [e]) = claims es ++ e.claim?.toList := by
  cases h : e.claim? <;> simp [claims, h]

/-- The producers that found a ticket, each with its ticket; `who` took the steps. -/
def claimants (who : List Nat) (es : List Event) : List (Nat × Nat) :=
  (who.zip es).filterMap fun p => p.2.claim?.map (p.1, ·)

theorem tickets_claimants (who : List Nat) (es : List Event) :
    ((claimants who es).map (·.2)).Sublist (claims es) := by
  induction es generalizing who with
  | nil => simp [claimants, claims]
  | cons e es ih =>
    cases who with
    | nil => simp [claimants]
    | cons i who =>
      have htail := ih who
      cases hc : e.claim? with
      | none => simpa [claimants, claims, hc] using htail
      | some t => simpa [claimants, claims, hc] using htail.cons_cons t

/-! ## What is remembered of claims -/

/-- The claim kept is the last one, claims ascend, and none is newer than the last ticket. -/
structure Claimed (es : List Event) (s : Slot) : Prop where
  last : s.claimed = (claims es).getLast?
  ascending : (claims es).Pairwise (· < ·)
  issued : ∀ u ∈ claims es, u ≤ lastTicket es

theorem lastTicket_le_concat (h : Remembers es c s) (hm : Moves c s e c' s') :
    lastTicket es ≤ lastTicket (es ++ [e]) := by
  rw [lastTicket_concat]
  cases hm with
  | issue =>
    have := h.next
    show lastTicket es ≤ s.nextTicket
    omega
  | _ => exact Nat.le_refl _

namespace Claimed

theorem fresh : Claimed [] {} := ⟨rfl, .nil, nofun⟩

/-- An event in which nobody finds a request leaves the claims as they are. -/
theorem quiet (h : Claimed es s) (hc : e.claim? = none) (hs : s'.claimed = s.claimed)
    (ht : lastTicket es ≤ lastTicket (es ++ [e])) : Claimed (es ++ [e]) s' := by
  have hsame : claims (es ++ [e]) = claims es := by rw [claims_concat, hc]; exact List.append_nil _
  refine ⟨?_, ?_, ?_⟩
  · rw [hsame, hs, h.last]
  · rw [hsame]; exact h.ascending
  · rw [hsame]
    intro u hu
    exact Nat.le_trans (h.issued u hu) ht

/-- All claims were made before the last ticket if that is not the claim kept. -/
theorem lt_lastTicket (h : Claimed es s) (hne : s.claimed ≠ some (lastTicket es)) :
    ∀ u ∈ claims es, u < lastTicket es := by
  intro u hu
  have hascending := h.ascending
  have hlast := h.last
  rcases List.eq_nil_or_concat (claims es) with hnil | ⟨us, v, hconcat⟩
  · rw [hnil] at hu; cases hu
  · have hv : v ≤ lastTicket es := h.issued v (by rw [hconcat]; simp)
    have hv' : v ≠ lastTicket es := by
      rintro rfl
      apply hne
      rw [hlast, hconcat]; simp
    rw [hconcat, List.concat_eq_append, List.pairwise_append] at hascending
    rw [hconcat, List.concat_eq_append, List.mem_append, List.mem_singleton] at hu
    rcases hu with hu | rfl
    · have := hascending.2.2 u hu v (List.mem_singleton_self v)
      omega
    · omega

/-- A request that was not found before is found. -/
theorem claim (h : Claimed es s) (hne : s.claimed ≠ some (lastTicket es))
    (hc : e.claim? = some (lastTicket es)) (hs : s'.claimed = some (lastTicket es))
    (ht : lastTicket (es ++ [e]) = lastTicket es) : Claimed (es ++ [e]) s' := by
  have hmore : claims (es ++ [e]) = claims es ++ [lastTicket es] := by rw [claims_concat, hc]; rfl
  refine ⟨?_, ?_, ?_⟩
  · rw [hmore, hs, List.getLast?_concat]
  · rw [hmore, List.pairwise_append]
    refine ⟨h.ascending, List.pairwise_singleton _ _, ?_⟩
    intro u hu v hv
    rw [List.mem_singleton.1 hv]
    exact h.lt_lastTicket hne u hu
  · rw [hmore, ht]
    intro u hu
    rcases List.mem_append.1 hu with hu | hu
    · exact h.issued u hu
    · exact Nat.le_of_eq (List.mem_singleton.1 hu)

end Claimed

/-- What the consumer waits on is the last ticket, and no frame is there. -/
theorem Remembers.waiting_of_requested (h : Remembers es c s) (hs : s.isClosed = false)
    (hr : s.requested = some t) :
    c = .waiting ∧ t = lastTicket es ∧ issuedAtDelivery es < t ∧ s.frame = none := by
  have hreq := h.requested hs
  rw [hr] at hreq
  split at hreq
  · rename_i hw
    cases hreq
    refine ⟨hw.1, rfl, hw.2, ?_⟩
    cases hf : s.frame with
    | none => rfl
    | some f =>
      have := h.held (by rw [hf]; rfl)
      omega
  · cases hreq

theorem Claimed.moves (h : Claimed es s) (hr : Remembers es c s) (hm : Moves c s e c' s') :
    Claimed (es ++ [e]) s' := by
  have ht := lastTicket_le_concat hr hm
  cases hm with
  | act ha =>
    cases ha with
    | claim hs hreq hne =>
      obtain ⟨-, rfl, -, -⟩ := hr.waiting_of_requested hs hreq
      exact h.claim hne rfl rfl (by rw [lastTicket_concat]; rfl)
    | endOver | finish => rename_i a _ _ _; exact h.quiet (by cases a <;> rfl) rfl ht
    | _ => exact h.quiet rfl rfl ht
  | _ => exact h.quiet rfl rfl ht

theorem Reaches.claimed (h : Reaches es c s) : Claimed es s := by
  induction h with
  | fresh => exact .fresh
  | move h hm ih => exact ih.moves h.remembers hm

/-! ## What a producer finds -/

/-- The consumer waits on its last ticket, and no producer found it yet. -/
def IsOpen (es : List Event) (c : Consumer) : Prop :=
  c = .waiting ∧ issuedAtDelivery es < lastTicket es ∧ lastTicket es ∉ claims es

instance (es : List Event) (c : Consumer) : Decidable (IsOpen es c) := inferInstanceAs (Decidable (_ ∧ _))

/-- What the history says a producer finds. -/
def finding (es : List Event) (c : Consumer) : Poll :=
  if isOver es then .closed else if IsOpen es c then .ready (lastTicket es) else .timedOut

theorem acts_poll (s : Slot) : Acts s .poll (.polled s.poll.1) s.poll.2 := acts_act s .poll

theorem ready_of_poll (hp : s.poll.1 = .ready t) : s.isClosed = false ∧ s.requested = some t ∧
    s.claimed ≠ some t ∧ s.poll.2 = { s with claimed := some t } := by
  have ha := acts_poll s
  generalize s.poll = p at hp ha ⊢
  obtain ⟨r, s'⟩ := p
  subst hp
  cases ha with
  | claim hs hr hc => exact ⟨hs, hr, hc, rfl⟩

theorem Acts.polled_eq {p : Poll} (ha : Acts s .poll (.polled p) s') (hr : Remembers es c s)
    (hc : Claimed es s) : p = finding es c := by
  unfold finding
  rw [← hr.closed]
  cases ha with
  | pollClosed hs => rw [if_pos hs]
  | pollNothing hs hreq =>
    have hnone : ¬IsOpen es c := by
      rintro ⟨hw, hlt, hmem⟩
      have hasked : s.requested = some (lastTicket es) := by rw [hr.requested hs, if_pos ⟨hw, hlt⟩]
      have hlast := hc.last
      rw [hreq _ hasked] at hlast
      exact hmem (List.mem_of_getLast? hlast.symm)
    rw [hs, if_neg Bool.false_ne_true, if_neg hnone]
  | claim hs hreq hne =>
    obtain ⟨hw, rfl, hlt, -⟩ := hr.waiting_of_requested hs hreq
    have hopen : IsOpen es c := by
      refine ⟨hw, hlt, ?_⟩
      intro hmem
      exact Nat.lt_irrefl _ (hc.lt_lastTicket hne _ hmem)
    rw [hs, if_neg Bool.false_ne_true, if_pos hopen]

/-- A frame for a ticket that was just found is delivered. -/
theorem Remembers.publish_poll (h : Remembers es c s) (hp : s.poll.1 = .ready t) (m : Metadata)
    (d : Bytes) : (s.poll.2.publish t m d).1 = .delivered := by
  obtain ⟨hs, hreq, -, hpoll⟩ := ready_of_poll hp
  obtain ⟨-, -, -, hframe⟩ := h.waiting_of_requested hs hreq
  have hopen : s.poll.2.isClosed = false := by rw [hpoll]; exact hs
  have hasked : s.poll.2.requested = some t := by rw [hpoll]; exact hreq
  have hempty : s.poll.2.frame = none := by rw [hpoll]; exact hframe
  simp [publish, hopen, hasked, hempty]

/-- **Every request has one producer.** The tickets that are handed out ascend over all producers, whoever
took the steps of a run, so that none is handed out twice. A poll after any run finds what the history
says: the request that the consumer waits on, once. It finds a ticket only while the consumer waits on that
very request, the last it made, and a frame for the ticket is delivered if its publication is the next
step. -/
theorem claims_ascend (sts : List Step) :
    let es := (run sts .idle {}).1
    let c := (run sts .idle {}).2.1
    let s := (run sts .idle {}).2.2
    (∀ who, (claimants who es).Pairwise (·.2 < ·.2)) ∧ s.poll.1 = finding es c ∧
      ∀ t, s.poll.1 = .ready t →
        c = .waiting ∧ s.requested = some t ∧ t = lastTicket es ∧ (∀ u ∈ claims es, u < t) ∧
          ∀ m d, (s.poll.2.publish t m d).1 = .delivered := by
  intro es c s
  have h : Reaches es c s := reaches_run sts
  have hr := h.remembers
  have hc := h.claimed
  refine ⟨?_, (acts_poll s).polled_eq hr hc, ?_⟩
  · intro who
    exact List.pairwise_map.1 (hc.ascending.sublist (tickets_claimants who es))
  intro t ht
  obtain ⟨hs, hreq, hne, -⟩ := ready_of_poll ht
  obtain ⟨hw, rfl, -, -⟩ := hr.waiting_of_requested hs hreq
  exact ⟨hw, hreq, rfl, hc.lt_lastTicket hne, hr.publish_poll ht⟩

/-- The consumer gives up a request that has its producer, and makes another. Whoever polls first finds it
and has its frame delivered, though the first producer is still at work; a third finds nothing. -/
theorem claims_ascend_after_timeout :
    let sts : List Step := [.start, .act .poll, .expire, .start]
    let s := (run sts .idle {}).2.2
    s.poll.1 = .ready 2 ∧ (s.poll.2.publish 2 default [7]).1 = .delivered ∧
      claimants [0, 1, 0, 0, 2, 3] (run (sts ++ [.act .poll, .act .poll]) .idle {}).1 =
        [(1, 1), (2, 2)] := by
  intro sts s
  obtain ⟨-, -, hready⟩ := claims_ascend sts
  have hpoll : s.poll.1 = .ready 2 := rfl
  exact ⟨hpoll, (hready 2 hpoll).2.2.2.2 default [7], rfl⟩

end Slot
end FrameFeed
