import FrameFeed.Proofs.Network.Exchange
import Mathlib.Data.List.Induction
import Mathlib.Data.List.Nodup
/-!
# What a step of a server does to a line

`Line.Moves` lists what a step can make of a line, each case with what it needs; `moves_step` says that the list
is complete. So what holds of every line in every run is proved by going through the moves once: a line that
waits or was turned away is not in the table, one that is served or was crashed is, and the streams in the table
are shut down if the server is stopping and not before (`sound_run`).
-/
namespace FrameFeed

/-! ## One step -/

/-- A session that is over is not passed by when it is forgotten, nor the table when the server stops. -/
def Server.Step.mayPass : Step → Bool
  | forget _ | stop => false
  | _ => true

theorem Server.Step.ne_stop {st : Step} (h : st.mayPass = true) : st ≠ .stop := by
  rintro rfl
  cases h

/-- What a step can make of a line, when the server is stopping or not. -/
inductive Line.Moves (stopping : Bool) (st : Server.Step) (l : Line) : Line → Prop where
  /-- A session that is over is forgotten if the step says so, and a line in the table is shut down by a stop. -/
  | still (hforget : ∀ e, st = .forget l.id → l.stage = .over e → e = .crashed)
    (hstop : st = .stop → l.tracked = false) : Moves stopping st l l
  | refuse (hq : l.stage = .queued) : Moves stopping st l { l with stage := .refused, shut := true }
  | enter {stage : Stage} (hst : st ≠ .stop) (hs : stopping = false) (hq : l.stage = .queued)
    (hstage : stage = .serving ∨ ∃ e, stage = .over (.unfit e)) :
    Moves stopping st l { l with stage, tracked := true }
  /-- A session does some work, after which it may be over. -/
  | serve {c : Connection} {stage : Stage} (hst : st ≠ .stop) (hv : l.stage = .serving)
    (hstage : stage = .serving ∨ ∃ e, stage = .over e) : Moves stopping st l { l with connection := c, stage }
  | leave {e : Ending} (hst : st = .forget l.id) (ho : l.stage = .over e) (hne : e ≠ .crashed) :
    Moves stopping st l { l with tracked := false }
  | shut (hst : st = .stop) (ht : l.tracked = true) : Moves stopping st l { l with shut := true }

theorem Line.Moves.idle {stopping : Bool} {st : Server.Step} {l : Line} (h : st.mayPass = true) :
    l.Moves stopping st l := by
  refine .still ?_ ?_
  · rintro e rfl
    cases h
  · rintro rfl
    cases h

namespace Server

variable {τ : Type} {s s' : Server τ} {st : Step} {id : Nat} {l : Line}

/-- A step that is about one line, and about what handlers work on, and passes the other lines by. -/
inductive Touches (st : Step) (s : Server τ) (id : Nat) : Server τ → Prop where
  | modify (service : τ) {f : Line → Line} (hid : ∀ l, (f l).id = l.id)
    (hline : ∀ l, s.line? id = some l → l.Moves s.stopping st (f l))
    (hothers : ∀ l : Line, l.id ≠ id → l.Moves s.stopping st l) :
    Touches st s id ({ s with service }.modify id f)

/-- Most steps can find nothing to do. -/
theorem touches_idle (h : st.mayPass = true) (s : Server τ) (id : Nat) :
    Touches st s id s := by
  have hsame : s.modify id (fun l => l) = s := by simp [modify]
  have htouches : Touches st s id (s.modify id fun l => l) :=
    .modify s.service (fun _ => rfl) (fun _ _ => .idle h) fun _ _ => .idle h
  rwa [hsame] at htouches

theorem touches_enter (h : st.mayPass = true) (s : Server τ) (id : Nat)
    {stage : Stage} (hstage : stage = .serving ∨ ∃ e, stage = .over (.unfit e)) :
    Touches st s id (s.enter id stage) := by
  refine .modify s.service ?_ ?_ fun _ _ => .idle h
  · intro l
    split
    · rfl
    · split <;> rfl
  · intro l _
    split
    · exact .idle h
    · rename_i hq
      have hq : l.stage = .queued := Decidable.not_not.1 hq
      cases hs : s.stopping with
      | true => exact .refuse hq
      | false => exact .enter (Step.ne_stop h) rfl hq hstage

theorem touches_decline (s : Server τ) (id : Nat) : Touches (.decline id) s id (s.decline id) := by
  refine .modify s.service ?_ ?_ fun _ _ => .idle rfl
  · intro l
    split <;> rfl
  · intro l _
    split
    · rename_i hq
      exact .refuse hq
    · exact .idle rfl

theorem touches_serve (h : st.mayPass = true) (s : Server τ) (id : Nat)
    (f : Stream → Stream) : Touches st s id (s.serve id f) := by
  unfold serve
  cases hline : s.line? id with
  | none => exact touches_idle h s id
  | some served =>
    dsimp only
    split
    · exact touches_idle h s id
    · rename_i hv
      refine .modify _ (fun _ => rfl) ?_ fun _ _ => .idle h
      intro l hl
      cases hline.symm.trans hl
      refine .serve (Step.ne_stop h) (Decidable.not_not.1 hv) ?_
      split
      · exact .inl rfl
      · exact .inr ⟨_, rfl⟩

theorem touches_expire (h : st.mayPass = true) (s : Server τ) (id : Nat) :
    Touches st s id (s.expire id) := by
  refine .modify s.service ?_ ?_ fun _ _ => .idle h
  · intro l
    split <;> rfl
  · intro l _
    split
    · rename_i hv
      exact .serve (Step.ne_stop h) hv (.inr ⟨_, rfl⟩)
    · exact .idle h

theorem touches_forget (s : Server τ) (id : Nat) : Touches (.forget id) s id (s.forget id) := by
  refine .modify s.service ?_ ?_ ?_
  · intro l
    split <;> rfl
  · intro l hl
    rw [← id_of_line? hl]
    split
    · rename_i hcrashed
      exact .still (fun e _ ho => by rw [hcrashed] at ho; cases ho; rfl) nofun
    · rename_i e hne ho
      exact .leave rfl ho hne
    · rename_i hne
      exact .still (fun e _ ho => absurd ho (hne e)) nofun
  · intro l hne
    exact .still (fun e heq _ => absurd (Step.forget.inj heq).symm hne) nofun

/-- A step accepts a connection, stops the server or is about one line. -/
theorem step_cases (s : Server τ) (st : Step) :
    st = .accept ∨ st = .stop ∨ ∃ id, Touches st s id (s.step st) := by
  cases st with
  | accept => exact .inl rfl
  | stop => exact .inr (.inl rfl)
  | register id =>
    refine .inr (.inr ⟨id, touches_enter rfl s id ?_⟩)
    split
    · exact .inl rfl
    · exact .inr ⟨_, rfl⟩
  | abandon id e => exact .inr (.inr ⟨id, touches_enter rfl s id (.inr ⟨_, rfl⟩)⟩)
  | decline id => exact .inr (.inr ⟨id, touches_decline s id⟩)
  | expire id => exact .inr (.inr ⟨id, touches_expire rfl s id⟩)
  | arrive id | hangUp id | failWrite id =>
    refine .inr (.inr ⟨id, ?_⟩)
    simp only [step, arrive, hangUp, failWrite]
    exact touches_serve rfl s id _
  | failRead id e =>
    refine .inr (.inr ⟨id, ?_⟩)
    simp only [step, failRead]
    split
    · exact touches_expire rfl s id
    · exact touches_serve rfl s id _
  | forget id => exact .inr (.inr ⟨id, touches_forget s id⟩)

/-- A step that is about one line changes nothing else of the server. -/
theorem Touches.frame (h : Touches st s id s') : s'.stopping = s.stopping ∧ s'.nextId = s.nextId ∧
    s'.lines.map (·.id) = s.lines.map (·.id) := by
  cases h with
  | modify service hid => exact ⟨rfl, rfl, (beside_modify hid _ id).ids⟩

/-- Only a stop makes the server stop. -/
theorem stopping_step (s : Server τ) (st : Step) : (s.step st).stopping = (s.stopping || st = .stop) := by
  by_cases hstop : st = .stop
  · rw [hstop]
    simp [step, stop]
  · rcases step_cases s st with rfl | rfl | ⟨id, h⟩
    · simp [step, accept]
    · exact absurd rfl hstop
    · simp [h.frame.1, hstop]

theorem line?_stop (s : Server τ) (id : Nat) :
    s.stop.line? id = (s.line? id).map fun l => if l.tracked then { l with shut := true } else l := by
  simp only [stop, line?, List.find?_map]
  congr 2
  funext l
  simp only [Function.comp]
  split <;> rfl

/-- **What a step does to a line.** -/
theorem moves_step (h : s.line? id = some l) (st : Step) :
    ∃ l', (s.step st).line? id = some l' ∧ l.Moves s.stopping st l' := by
  rcases step_cases s st with rfl | rfl | ⟨id', ht⟩
  · refine ⟨l, ?_, .idle rfl⟩
    simp only [step, accept, line?, List.find?_append] at h ⊢
    rw [h, Option.some_or]
  · rw [step, line?_stop, h, Option.map_some]
    refine ⟨_, rfl, ?_⟩
    by_cases ht : l.tracked = true
    · rw [if_pos ht]
      exact .shut rfl ht
    · rw [if_neg ht]
      exact .still (fun _ heq => by cases heq) fun _ => Bool.eq_false_iff.2 ht
  · generalize hs' : s.step st = s' at ht ⊢
    cases ht with
    | @modify service f hid hline hothers =>
      have hsame : ({ s with service } : Server τ).line? id = some l := h
      rw [line?_modify hid, hsame, Option.map_some]
      by_cases heq : l.id = id'
      · rw [if_pos heq]
        exact ⟨_, rfl, hline l (by rw [← heq, id_of_line? h, h])⟩
      · rw [if_neg heq]
        exact ⟨_, rfl, hothers l heq⟩

/-- A line that a step adds was accepted by it, and turned away if the server is stopping. -/
theorem accepted_of_new (h : s.line? id = none) {st : Step} (h' : (s.step st).line? id = some l) :
    l.stage = (if s.stopping then .refused else .queued) ∧ l.tracked = false ∧ l.shut = false := by
  rcases step_cases s st with rfl | rfl | ⟨id', ht⟩
  · simp only [line?] at h
    simp only [step, accept, line?, List.find?_append, h, Option.none_or] at h'
    have hl := List.mem_singleton.1 (List.mem_of_find?_eq_some h')
    subst hl
    exact ⟨rfl, rfl, rfl⟩
  · rw [step, line?_stop, h] at h'
    cases h'
  · generalize s.step st = s' at ht h'
    cases ht with
    | @modify service f hid =>
      have hsame : ({ s with service } : Server τ).line? id = none := h
      rw [line?_modify hid, hsame] at h'
      cases h'

/-- A line that a step adds is not in the table. -/
theorem new_step (h : s.line? id = none) {st : Step} (h' : (s.step st).line? id = some l) :
    (l.stage = .queued ∨ l.stage = .refused) ∧ l.tracked = false ∧ l.shut = false := by
  obtain ⟨hstage, hrest⟩ := accepted_of_new h h'
  refine ⟨?_, hrest⟩
  rw [hstage]
  split
  · exact .inr rfl
  · exact .inl rfl

/-! ## The numbers of lines -/

/-- Lines are told apart by their numbers, and new ones get others. -/
structure Numbered (s : Server τ) : Prop where
  distinct : (s.lines.map (·.id)).Nodup
  below : ∀ id ∈ s.lines.map (·.id), id < s.nextId

theorem Numbered.step (h : Numbered s) (st : Step) : Numbered (s.step st) := by
  rcases step_cases s st with rfl | rfl | ⟨id, ht⟩
  · refine ⟨?_, ?_⟩
    · simp only [Server.step, accept, List.map_append, List.map_cons, List.map_nil, List.nodup_append]
      refine ⟨h.distinct, by simp, ?_⟩
      rintro a ha b hb rfl
      exact Nat.lt_irrefl _ (List.mem_singleton.1 hb ▸ h.below a ha)
    · intro id hid
      simp only [Server.step, accept, List.map_append, List.map_cons, List.map_nil, List.mem_append,
        List.mem_singleton] at hid
      rcases hid with hid | rfl
      · exact Nat.lt_succ_of_lt (h.below id hid)
      · exact Nat.lt_succ_self _
  · have hids : (s.step .stop).lines.map (·.id) = s.lines.map (·.id) := by
      simp only [Server.step, stop, List.map_map]
      congr 1
      funext l
      simp only [Function.comp]
      split <;> rfl
    exact ⟨hids ▸ h.distinct, hids ▸ h.below⟩
  · obtain ⟨-, hnext, hids⟩ := ht.frame
    exact ⟨hids ▸ h.distinct, by rw [hids, hnext]; exact h.below⟩

/-- A line is found by its number. -/
theorem Numbered.line?_eq (h : Numbered s) (hl : l ∈ s.lines) : s.line? l.id = some l := by
  have hsome : (s.line? l.id).isSome = true := by
    rw [line?, List.find?_isSome]
    exact ⟨l, hl, by simp⟩
  obtain ⟨found, hfound⟩ := Option.isSome_iff_exists.1 hsome
  have hmem : found ∈ s.lines := List.mem_of_find?_eq_some hfound
  rw [hfound, List.inj_on_of_nodup_map h.distinct hmem hl (id_of_line? hfound)]

end Server

/-! ## Every line of a run -/

/-- What holds of a line, when the server is stopping or not. -/
structure Line.Sound (stopping : Bool) (l : Line) : Prop where
  queued : l.stage = .queued → l.tracked = false ∧ l.shut = false
  refused : l.stage = .refused → l.tracked = false
  serving : l.stage = .serving → l.tracked = true
  crashed : l.stage = .over .crashed → l.tracked = true
  /-- A stream in the table is shut down when the server stops, and not before. -/
  shut : l.tracked = true → l.shut = stopping

theorem Line.sound_of_new {stopping : Bool} {l : Line} (hstage : l.stage = .queued ∨ l.stage = .refused)
    (ht : l.tracked = false) (hs : l.shut = false) : l.Sound stopping := by
  refine ⟨fun _ => ⟨ht, hs⟩, fun _ => ht, ?_, ?_, ?_⟩
  · intro hv
    rcases hstage with h | h <;> rw [h] at hv <;> cases hv
  · intro hc
    rcases hstage with h | h <;> rw [h] at hc <;> cases hc
  · intro htracked
    exact absurd (ht.symm.trans htracked) Bool.false_ne_true

theorem Line.Moves.sound {stopping : Bool} {st : Server.Step} {l l' : Line} (h : l.Moves stopping st l')
    (hl : l.Sound stopping) : l'.Sound (stopping || st = .stop) := by
  cases h with
  | still hforget hstop =>
    refine { hl with shut := ?_ }
    intro ht
    have hne : st ≠ .stop := by
      intro heq
      rw [hstop heq] at ht
      cases ht
    simpa [hne] using hl.shut ht
  | refuse hq =>
    have ht := (hl.queued hq).1
    refine ⟨nofun, fun _ => ht, nofun, nofun, ?_⟩
    intro htracked
    exact absurd (ht.symm.trans htracked) Bool.false_ne_true
  | enter hst hs hq hstage =>
    have hshut := (hl.queued hq).2
    rcases hstage with rfl | ⟨e, rfl⟩
    · exact ⟨nofun, nofun, fun _ => rfl, fun _ => rfl, fun _ => by simpa [hst, hs] using hshut⟩
    · exact ⟨nofun, nofun, fun _ => rfl, fun _ => rfl, fun _ => by simpa [hst, hs] using hshut⟩
  | serve hst hv hstage =>
    have ht := hl.serving hv
    have hshut := hl.shut ht
    rcases hstage with rfl | ⟨e, rfl⟩
    · exact ⟨nofun, nofun, fun _ => ht, fun _ => ht, fun _ => by simpa [hst] using hshut⟩
    · exact ⟨nofun, nofun, fun _ => ht, fun _ => ht, fun _ => by simpa [hst] using hshut⟩
  | leave hst ho hne =>
    refine ⟨?_, ?_, ?_, ?_, nofun⟩
    · intro hq
      rw [ho] at hq
      cases hq
    · intro hr
      rfl
    · intro hv
      rw [ho] at hv
      cases hv
    · intro hc
      rw [ho] at hc
      cases hc
      exact absurd rfl hne
  | shut hst ht =>
    refine { hl with queued := ?_, shut := ?_ }
    · intro hq
      exact absurd ((hl.queued hq).1.symm.trans ht) Bool.false_ne_true
    · intro _
      simp [hst]

namespace Server

variable {τ : Type}

/-- A server that was not yet at work. -/
def fresh (router : Router τ) (service : τ) (settings : ServerSettings) : Server τ :=
  { router, service, settings }

theorem run_append (s : Server τ) (before after : List Step) :
    s.run (before ++ after) = (s.run before).run after := List.foldl_append

theorem run_concat (s : Server τ) (steps : List Step) (st : Step) :
    s.run (steps ++ [st]) = (s.run steps).step st := run_append s steps [st]

variable (router : Router τ) (service : τ) (settings : ServerSettings)

theorem numbered_run (steps : List Step) : Numbered ((fresh router service settings).run steps) := by
  induction steps using List.reverseRecOn with
  | nil => exact ⟨.nil, nofun⟩
  | append_singleton steps st ih =>
    rw [run_concat]
    exact ih.step st

/-- **Every line of a run is sound.** -/
theorem sound_run (steps : List Step) {id : Nat} {l : Line}
    (h : ((fresh router service settings).run steps).line? id = some l) :
    l.Sound ((fresh router service settings).run steps).stopping := by
  induction steps using List.reverseRecOn generalizing l with
  | nil => cases h
  | append_singleton steps st ih =>
    rw [run_concat] at h ⊢
    rw [stopping_step]
    cases hbefore : ((fresh router service settings).run steps).line? id with
    | none =>
      obtain ⟨hstage, ht, hs⟩ := new_step hbefore h
      exact Line.sound_of_new hstage ht hs
    | some before =>
      obtain ⟨after, hafter, hmoves⟩ := moves_step hbefore st
      cases h.symm.trans hafter
      exact hmoves.sound (ih hbefore)

end Server
end FrameFeed
