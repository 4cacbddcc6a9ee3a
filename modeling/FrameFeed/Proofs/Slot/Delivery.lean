import FrameFeed.Proofs.Slot.History
/-!
# What a slot delivers

Every frame that a producer is told is delivered reaches the consumer once and in order
(`deliveries_eq_returns_append_held`), and the history alone says which frames those are: the answers
to the last ticket, and while the consumer waits, to the one before it, as long as nothing was
delivered since (`publish_eq_verdict`).
-/
namespace FrameFeed
namespace Slot

variable {es : List Event} {c c' : Consumer} {s s' : Slot} {e : Event}

/-! ## Exactly once, in order -/

/-- What was held and what comes in is what goes out and what is held then. -/
theorem Moves.flow (hm : Moves c s e c' s') :
    s.frame.toList ++ e.delivery?.toList = e.return?.toList ++ s'.frame.toList := by
  cases hm with
  | still => simp [Event.delivery?, Event.return?]
  | hand _ hf => simp [Event.delivery?, Event.return?, hf]
  | refuse | giveUp | overflow | issue | expire | drop => simp [Event.delivery?, Event.return?]
  | act ha =>
    cases ha with
    | deliver _ hf => simp [Event.delivery?, Event.return?, hf]
    | endOver | finish => rename_i a _ _ _; cases a <;> simp [Event.delivery?, Event.return?]
    | _ => simp [Event.delivery?, Event.return?]

theorem Reaches.deliveries_eq (h : Reaches es c s) :
    deliveries es = returns es ++ s.frame.toList := by
  induction h with
  | fresh => rfl
  | move _ hm ih =>
    rw [deliveries_concat, returns_concat, ih, List.append_assoc, hm.flow, List.append_assoc]

/-- A frame that is delivered answers a ticket the slot remembers. -/
theorem Moves.ticket_of_delivery {f : PublishedFrame} (hm : Moves c s e c' s')
    (hd : e.delivery? = some f) :
    s.isClosed = false ∧ (s.requested = some f.ticket ∨ s.withdrawn = some f.ticket) := by
  cases hm with
  | act ha =>
    cases ha with
    | deliver hs _ ht => cases hd; exact ⟨hs, ht⟩
    | endOver | finish => rename_i a _ _ _; cases a <;> cases hd
    | _ => cases hd
  | _ => cases hd

/-- Delivered tickets ascend, and none is newer than the last delivery. -/
theorem Reaches.ascending (h : Reaches es c s) :
    (deliveries es).Pairwise (fun f g => f.ticket < g.ticket) ∧
      ∀ f ∈ deliveries es, f.ticket ≤ issuedAtDelivery es := by
  induction h with
  | fresh => exact ⟨.nil, nofun⟩
  | @move es c c' s s' e h hm ih =>
    obtain ⟨hsorted, hle⟩ := ih
    rw [deliveries_concat]
    cases hd : e.delivery? with
    | none =>
      rw [issuedAtDelivery_concat_of_none hd]
      simpa using ⟨hsorted, hle⟩
    | some f =>
      obtain ⟨hopen, hticket⟩ := hm.ticket_of_delivery hd
      obtain ⟨hlt, hlast, -⟩ := (h.remembers.answerable hopen f.ticket).1 hticket
      have hat : issuedAtDelivery (es ++ [e]) = lastTicket (es ++ [e]) :=
        (issuedAtDelivery_concat_of_some hd).trans (h.move hm).remembers.count
      have hnew : lastTicket (es ++ [e]) = lastTicket es := by
        rw [lastTicket_concat, Event.ticket?_of_delivery? hd, Option.getD_none]
      refine ⟨List.pairwise_append.2 ⟨hsorted, List.pairwise_singleton .., ?_⟩, ?_⟩
      · intro g hg f' hf'
        have := hle g hg
        rw [Option.toList_some, List.mem_singleton] at hf'
        subst hf'; omega
      · intro g hg
        rw [hat, hnew]
        rw [Option.toList_some, List.mem_append, List.mem_singleton] at hg
        rcases hg with hg | rfl
        · have := hle g hg; omega
        · exact hlast

/-- **Exactly once, in order.** In every run the frames that producers were told are delivered are
those the consumer got, in the same order, and then the one that is held; their tickets ascend. A
frame that is held when a call begins is its answer at once, and no ticket is issued. -/
theorem deliveries_eq_returns_append_held (sts : List Step) :
    let es := (run sts .idle {}).1
    let c := (run sts .idle {}).2.1
    let s := (run sts .idle {}).2.2
    deliveries es = returns es ++ s.frame.toList ∧
      (deliveries es).Pairwise (fun f g => f.ticket < g.ticket) ∧
      ∀ f, c = .idle → s.frame = some f →
        step .start c s = (.pulled (.ok f), .idle, { s with frame := none, state := .ready }) := by
  intro es c s
  have h : Reaches es c s := reaches_run sts
  refine ⟨h.deliveries_eq, h.ascending.1, ?_⟩
  intro f hc hf
  simp only [step, start, hc, hf]

/-! ## The rule of grace -/

/-- A frame for the ticket still counts: nothing was delivered since the ticket was issued, and it is
the last one or, while the consumer waits on the last one, the one before. -/
def Counts (es : List Event) (c : Consumer) (t : Nat) : Prop :=
  issuedAtDelivery es < t ∧ t ≤ lastTicket es ∧
    (t = lastTicket es ∨ t + 1 = lastTicket es ∧ c = .waiting)

instance (es : List Event) (c : Consumer) (t : Nat) : Decidable (Counts es c t) :=
  inferInstanceAs (Decidable (_ ∧ _))

/-- What the history says becomes of a frame. -/
def verdict (es : List Event) (c : Consumer) (t : Nat) : Publish :=
  if isOver es then .closed else if Counts es c t then .delivered else .discarded

theorem Acts.published_eq {t : Nat} {m : Metadata} {d : Bytes} {p : Publish}
    (ha : Acts s (.publish t m d) (.published p) s') (h : Remembers es c s) :
    p = verdict es c t ∧ (p = .discarded →
      s' = { s with stats := { s.stats with discarded := s.stats.discarded + 1 } }) := by
  cases ha with
  | publishClosed hs =>
    have hover : isOver es = true := h.closed ▸ hs
    exact ⟨by rw [verdict, if_pos hover], nofun⟩
  | discard hs hn =>
    have hover : ¬isOver es = true := by rw [← h.closed, hs]; simp
    refine ⟨?_, fun _ => rfl⟩
    rw [verdict, if_neg hover, if_neg]
    intro hcounts
    rcases hn with hn | hf
    · have := (h.answerable hs t).2 hcounts
      exact this.elim hn.1 hn.2
    · have := h.held hf
      obtain ⟨hlt, hle, -⟩ := hcounts
      omega
  | deliver hs _ ht =>
    have hover : ¬isOver es = true := by rw [← h.closed, hs]; simp
    have hcounts : Counts es c t := (h.answerable hs t).1 ht
    exact ⟨by rw [verdict, if_neg hover, if_pos hcounts], nofun⟩

/-- **One frame of grace.** After any run a frame for any ticket is answered as the history says: it is
refused if the stream is over, delivered if it still counts, and otherwise discarded, which changes
nothing but the count of discarded frames. -/
theorem publish_eq_verdict (sts : List Step) (t : Nat) (m : Metadata) (d : Bytes) :
    let es := (run sts .idle {}).1
    let c := (run sts .idle {}).2.1
    let s := (run sts .idle {}).2.2
    (s.publish t m d).1 = verdict es c t ∧ ((s.publish t m d).1 = .discarded →
      (s.publish t m d).2 = { s with stats := { s.stats with discarded := s.stats.discarded + 1 } }) := by
  intro es c s
  have h : Reaches es c s := reaches_run sts
  exact (acts_act s (.publish t m d)).published_eq h.remembers

end Slot
end FrameFeed
