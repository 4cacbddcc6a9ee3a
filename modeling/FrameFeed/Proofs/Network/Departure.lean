import FrameFeed.Exchange.Service
import FrameFeed.Feed.Scripted
import FrameFeed.Proofs.Network.Lines
/-!
# Sessions that have ended

The thread of a session that is over takes it from the table, which is the last thing the thread does. So a
session that ended is forgotten and its peer reads the end of the stream (`ended_forgotten`), with one exception:
a handler that crashes takes the thread with it, and the session stays in the table, its stream open, until the
server stops (`crashed_tracked`).
-/
namespace FrameFeed

/-! ## Lines that are over -/

/-- A session that is over stays so, and once forgotten is never tracked again. -/
theorem Line.Moves.over {stopping : Bool} {st : Server.Step} {l l' : Line} {e : Ending}
    (h : l.Moves stopping st l') (ho : l.stage = .over e) :
    l'.stage = .over e ∧ (l.tracked = false → l'.tracked = false) ∧
      (st = .forget l.id → e ≠ .crashed → l'.tracked = false) := by
  cases h with
  | still hforget hstop => exact ⟨ho, fun ht => ht, fun heq hne => absurd (hforget e heq ho) hne⟩
  | refuse hq => rw [ho] at hq; cases hq
  | enter _ _ hq => rw [ho] at hq; cases hq
  | serve _ hv => rw [ho] at hv; cases hv
  | leave => exact ⟨ho, fun _ => rfl, fun _ _ => rfl⟩
  | shut hst =>
    refine ⟨ho, fun ht => ht, ?_⟩
    intro heq
    rw [hst] at heq
    cases heq

/-- The peer of a line reads the end of the stream if it is closed, and else waits. -/
theorem Link.ending_gather {τ : Type} {s : Server τ} {id : Nat} {line : Line} (h : s.line? id = some line)
    (peer : Connection) : (gather ⟨s, id, peer⟩).connection.stream.ending =
      if line.isClosed then none else some Server.pending := by
  simp only [gather, h]

namespace Server

variable {τ : Type} {s : Server τ} {steps : List Step} {id : Nat} {l : Line} {e : Ending}

/-- The thread of a session has ended in a run: the session was over, and unless it crashed, the thread went on
to take it from the table. -/
def ThreadEnded (s : Server τ) (steps : List Step) (id : Nat) (e : Ending) : Prop :=
  ∃ before after l, steps = before ++ after ∧ (s.run before).line? id = some l ∧ l.stage = .over e ∧
    (e = .crashed ∨ .forget id ∈ after)

/-- A session that is served, or whose thread has yet to take it from the table. -/
def Attended (s : Server τ) (steps : List Step) (l : Line) : Prop :=
  l.stage = .serving ∨ ∃ e, l.stage = .over e ∧ ¬ThreadEnded s steps l.id e

theorem over_run (h : s.line? id = some l) (ho : l.stage = .over e) (steps : List Step) :
    ∃ l', (s.run steps).line? id = some l' ∧ l'.stage = .over e ∧
      (e ≠ .crashed → l.tracked = false ∨ .forget id ∈ steps → l'.tracked = false) := by
  induction steps generalizing s l with
  | nil => exact ⟨l, h, ho, fun _ ht => ht.resolve_right nofun⟩
  | cons st steps ih =>
    obtain ⟨l₁, h₁, hmoves⟩ := moves_step h st
    obtain ⟨ho₁, hkept, hforgotten⟩ := hmoves.over ho
    obtain ⟨l', h', ho', ht'⟩ := ih h₁ ho₁
    refine ⟨l', h', ho', ?_⟩
    rintro hne (ht | hmem)
    · exact ht' hne (.inl (hkept ht))
    · rcases List.mem_cons.1 hmem with rfl | hmem
      · exact ht' hne (.inl (hforgotten (by rw [id_of_line? h]) hne))
      · exact ht' hne (.inr hmem)

/-- A thread that has ended without a crash has taken its session from the table. -/
theorem ThreadEnded.over (h : ThreadEnded s steps id e) :
    ∃ l, (s.run steps).line? id = some l ∧ l.stage = .over e ∧ (e ≠ .crashed → l.tracked = false) := by
  obtain ⟨before, after, l, rfl, hl, ho, hend⟩ := h
  obtain ⟨l', hl', ho', ht'⟩ := over_run hl ho after
  rw [← run_append] at hl'
  exact ⟨l', hl', ho', fun hne => ht' hne (.inr (hend.resolve_left hne))⟩

theorem ThreadEnded.concat (h : ThreadEnded s steps id e) (st : Step) : ThreadEnded s (steps ++ [st]) id e := by
  obtain ⟨before, after, l, rfl, hl, ho, hend⟩ := h
  refine ⟨before, after ++ [st], l, by simp, hl, ho, ?_⟩
  exact hend.imp_right fun hmem => List.mem_append_left _ hmem

variable (router : Router τ) (service : τ) (settings : ServerSettings)

/-- Only its own thread takes a session that is over from the table. -/
theorem threadEnded_of_untracked (h : ((fresh router service settings).run steps).line? id = some l)
    (ho : l.stage = .over e) (ht : l.tracked = false) :
    ThreadEnded (fresh router service settings) steps id e := by
  induction steps using List.reverseRecOn generalizing l with
  | nil => cases h
  | append_singleton steps st ih =>
    rw [run_concat] at h
    cases hbefore : ((fresh router service settings).run steps).line? id with
    | none =>
      obtain ⟨hstage, -⟩ := new_step hbefore h
      rcases hstage with hq | hr
      · rw [ho] at hq; cases hq
      · rw [ho] at hr; cases hr
    | some before =>
      obtain ⟨after, hafter, hmoves⟩ := moves_step hbefore st
      cases h.symm.trans hafter
      have hsound := sound_run router service settings steps hbefore
      cases hmoves with
      | still => exact (ih hbefore ho ht).concat st
      | refuse => cases ho
      | enter => cases ht
      | serve hst hv =>
        have htracked : before.tracked = false := ht
        rw [hsound.serving hv] at htracked
        cases htracked
      | @leave e' hst ho' hne =>
        cases ho'.symm.trans ho
        refine ⟨steps, [st], before, rfl, hbefore, ho', .inr ?_⟩
        rw [hst, id_of_line? hbefore]
        exact .head _
      | shut => exact (ih hbefore ho ht).concat st

/-- A line is in the table if its session is attended, or if a handler crashed it. -/
theorem tracked_iff (h : ((fresh router service settings).run steps).line? l.id = some l) :
    l.tracked = true ↔ Attended (fresh router service settings) steps l ∨ l.stage = .over .crashed := by
  have hsound := sound_run router service settings steps h
  constructor
  · intro ht
    cases hstage : l.stage with
    | queued => exact absurd ((hsound.queued hstage).1.symm.trans ht) Bool.false_ne_true
    | refused => exact absurd ((hsound.refused hstage).symm.trans ht) Bool.false_ne_true
    | serving => exact .inl (.inl hstage)
    | «over» e =>
      by_cases hc : e = .crashed
      · exact .inr (by rw [hc])
      · refine .inl (.inr ⟨e, hstage, ?_⟩)
        intro hended
        obtain ⟨l', hl', -, ht'⟩ := hended.over
        cases h.symm.trans hl'
        exact absurd ((ht' hc).symm.trans ht) Bool.false_ne_true
  · rintro ((hv | ⟨e, ho, hended⟩) | hc)
    · exact hsound.serving hv
    · rw [← Bool.not_eq_false]
      intro ht
      exact hended (threadEnded_of_untracked router service settings h ho ht)
    · exact hsound.crashed hc

/-- A thread that crashed has ended at once. -/
theorem threadEnded_of_crashed (h : (s.run steps).line? id = some l) (hc : l.stage = .over .crashed) :
    ThreadEnded s steps id .crashed :=
  ⟨steps, [], l, by simp, h, hc, .inl rfl⟩

/-- Two kinds that make up a third are counted one by one. -/
theorem countP_of_parts {α : Type} {p q r : α → Bool} {as : List α}
    (h : ∀ a ∈ as, (p a = true ↔ q a = true ∨ r a = true) ∧ ¬(q a = true ∧ r a = true)) :
    as.countP p = as.countP q + as.countP r := by
  induction as with
  | nil => rfl
  | cons a as ih =>
    have hrest := ih fun b hb => h b (.tail _ hb)
    obtain ⟨hparts, hdisjoint⟩ := h a (.head _)
    by_cases hq : q a = true
    · have hp := hparts.2 (.inl hq)
      have hr : ¬r a = true := fun hr => hdisjoint ⟨hq, hr⟩
      rw [List.countP_cons_of_pos hp, List.countP_cons_of_pos hq, List.countP_cons_of_neg hr, hrest]
      omega
    · by_cases hr : r a = true
      · have hp := hparts.2 (.inr hr)
        rw [List.countP_cons_of_pos hp, List.countP_cons_of_neg hq, List.countP_cons_of_pos hr, hrest]
        omega
      · have hp : ¬p a = true := fun hp => (hparts.1 hp).elim hq hr
        rw [List.countP_cons_of_neg hp, List.countP_cons_of_neg hq, List.countP_cons_of_neg hr, hrest]

open Classical in
/-- **Sessions that have ended are forgotten.** A session whose thread has ended without a crash has no entry in
the table, and its peer reads the end of the stream. The table holds the sessions that are attended, and besides
them those that a crash ended: these keep their entries, and their peers wait until the server is stopped. -/
theorem ended_forgotten (steps : List Step) :
    let start := fresh router service settings
    let s := start.run steps
    (∀ id e, ThreadEnded start steps id e → e ≠ .crashed →
      ∃ l, s.line? id = some l ∧ l.tracked = false ∧
        ∀ peer, (Link.gather ⟨s, id, peer⟩).connection.stream.ending = none) ∧
    (∀ id, ThreadEnded start steps id .crashed →
      ∃ l, s.line? id = some l ∧ l.tracked = true ∧
        ∀ peer, (Link.gather ⟨s, id, peer⟩).connection.stream.ending =
          if s.stopping then none else some pending) ∧
    s.sessionCount =
      s.lines.countP (Attended start steps ·) + s.lines.countP (·.stage = .over .crashed) := by
  intro start s
  refine ⟨?_, ?_, ?_⟩
  · intro id e hended hne
    obtain ⟨l, hl, ho, ht⟩ := hended.over
    have hclosed : l.isClosed = true := by simp [Line.isClosed, ho, ht hne]
    refine ⟨l, hl, ht hne, ?_⟩
    intro peer
    rw [Link.ending_gather hl, if_pos hclosed]
  · intro id hended
    obtain ⟨l, hl, ho, -⟩ := hended.over
    have hsound := sound_run router service settings steps hl
    have ht := hsound.crashed ho
    have hclosed : l.isClosed = s.stopping := by simp [Line.isClosed, ho, ht, hsound.shut ht, s, start]
    refine ⟨l, hl, ht, ?_⟩
    intro peer
    rw [Link.ending_gather hl, hclosed]
  · refine countP_of_parts ?_
    intro l hmem
    have hl := (numbered_run router service settings steps).line?_eq hmem
    refine ⟨by simpa using tracked_iff router service settings hl, ?_⟩
    simp only [decide_eq_true_eq]
    rintro ⟨hv | ⟨e, ho, hended⟩, hc⟩
    · rw [hv] at hc
      cases hc
    · cases ho.symm.trans hc
      exact hended (threadEnded_of_crashed hl hc)

/-- A server of a source that crashes when it is asked for a frame. -/
def crashing : Server (Service ScriptedSource) :=
  fresh .forSource { source := { metadata := .ok default, cues := [.crash] }, sink := {} } {}

/-- A peer connects and asks for a frame. -/
def asking : List Step :=
  [.accept, .register 1,
    .arrive 1 (0x46 :: 0x57 :: 19 :: 0 :: 0 :: 0 :: 1 :: 0 :: Bytes.ofText "\x7b\"request\":\"frame\"\x7d")]

/-- The session that the crash ended is not forgotten: its thread has ended, but it stands in the table, it is
counted, and its peer waits. -/
theorem crashed_tracked :
    let s := crashing.run asking
    ThreadEnded crashing asking 1 .crashed ∧ s.sessionCount = 1 ∧
      ∃ l, s.line? 1 = some l ∧ l.tracked = true ∧
        (Link.gather ⟨s, 1, {}⟩).connection.stream.ending = some pending := by
  intro s
  have hline : (s.line? 1).map (fun l => (l.stage, l.tracked, l.isClosed)) =
      some (.over .crashed, true, false) := by decide +kernel
  obtain ⟨l, hl, hstate⟩ := Option.map_eq_some_iff.1 hline
  simp only [Prod.mk.injEq] at hstate
  obtain ⟨hcrashed, htracked, hopen⟩ := hstate
  refine ⟨threadEnded_of_crashed hl hcrashed, by decide +kernel, l, hl, htracked, ?_⟩
  rw [Link.ending_gather hl, hopen]
  rfl

/-- A peer of the same server that leaves is forgotten, also beside one whose session crashed. -/
theorem ended_forgotten_beside_crash :
    let steps : List Step := asking ++ [.accept, .register 2, .hangUp 2, .forget 2]
    let s := crashing.run steps
    ThreadEnded crashing steps 2 .left ∧
      (∃ l, s.line? 2 = some l ∧ l.tracked = false ∧
        (Link.gather ⟨s, 2, {}⟩).connection.stream.ending = none) ∧
      (Link.gather ⟨s, 1, {}⟩).connection.stream.ending = some pending ∧ s.sessionCount = 1 := by
  intro steps s
  have hleft : ((crashing.run (steps.take 6)).line? 2).map (·.stage) = some (.over .left) := by decide +kernel
  have hcrashed : (s.line? 1).map (·.stage) = some (.over .crashed) := by decide +kernel
  have hrunning : s.stopping = false := by decide +kernel
  obtain ⟨l, hl, hstage⟩ := Option.map_eq_some_iff.1 hleft
  obtain ⟨l₁, hl₁, hstage₁⟩ := Option.map_eq_some_iff.1 hcrashed
  have hended : ThreadEnded crashing steps 2 .left :=
    ⟨steps.take 6, [.forget 2], l, rfl, hl, hstage, .inr (.head _)⟩
  obtain ⟨hforgotten, hkept, -⟩ :=
    ended_forgotten crashing.router crashing.service crashing.settings steps
  obtain ⟨l', hl', htracked, hpeer⟩ := hforgotten 2 .left hended nofun
  obtain ⟨-, -, -, hpeer₁⟩ := hkept 1 (threadEnded_of_crashed hl₁ hstage₁)
  refine ⟨hended, ⟨l', hl', htracked, hpeer {}⟩, (hpeer₁ {}).trans ?_, by decide +kernel⟩
  exact if_neg (by rw [Bool.not_eq_true]; exact hrunning)

end Server
end FrameFeed
