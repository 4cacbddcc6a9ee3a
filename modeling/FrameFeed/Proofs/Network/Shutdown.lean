import FrameFeed.Proofs.Network.Departure
/-!
# What is left to happen once a server is stopped

A stop shuts down every stream in the table and lets nobody else in, under the lock that registering takes too.
So whatever order accepting, registering, leaving and stopping come in, a session that is still there afterwards
was in the table when the server was stopped, and its stream is shut down (`stopped_for_good`).
-/
namespace FrameFeed

/-- While the server is stopping nothing enters the table, nobody begins to be served, and who was turned away
stays so. -/
theorem Line.Moves.of_stopping {st : Server.Step} {l l' : Line} (h : l.Moves true st l') :
    (l'.tracked = true → l.tracked = true) ∧ (l'.stage = .serving → l.stage = .serving) ∧
      (l.stage = .refused → l'.stage = .refused) := by
  cases h with
  | still => exact ⟨fun ht => ht, fun hv => hv, fun hr => hr⟩
  | refuse => exact ⟨fun ht => ht, nofun, fun _ => rfl⟩
  | enter _ hs => cases hs
  | serve _ hv =>
    refine ⟨fun ht => ht, fun _ => hv, ?_⟩
    intro hr
    rw [hv] at hr
    cases hr
  | leave => exact ⟨nofun, fun hv => hv, fun hr => hr⟩
  | shut => exact ⟨fun ht => ht, fun hv => hv, fun hr => hr⟩

theorem Line.isClosed_of_shut {l : Line} (h : l.shut = true) : l.isClosed = true := by
  simp [isClosed, h]

namespace Server

variable {τ : Type} {s : Server τ} {steps : List Step} {id : Nat} {l : Line}

/-- An attempt to register a connection, whether or not its session could begin. -/
def Step.registers (id : Nat) : Step → Prop
  | .register id' | .abandon id' _ => id' = id
  | _ => False

/-! ## While the server is stopping -/

theorem stopping_run (hs : s.stopping = true) (steps : List Step) : (s.run steps).stopping = true := by
  induction steps generalizing s with
  | nil => exact hs
  | cons st steps ih => exact ih (by rw [stopping_step, hs, Bool.true_or])

/-- A line that is known does not enter the table, and its session does not begin. -/
theorem known_run (hs : s.stopping = true) (h : s.line? id = some l) (steps : List Step) :
    ∃ l', (s.run steps).line? id = some l' ∧ (l'.tracked = true → l.tracked = true) ∧
      (l'.stage = .serving → l.stage = .serving) ∧ (l.stage = .refused → l'.stage = .refused) := by
  induction steps generalizing s l with
  | nil => exact ⟨l, h, fun ht => ht, fun hv => hv, fun hr => hr⟩
  | cons st steps ih =>
    obtain ⟨l₁, h₁, hmoves⟩ := moves_step h st
    rw [hs] at hmoves
    obtain ⟨htracked, hserving, hrefused⟩ := hmoves.of_stopping
    obtain ⟨l', h', htracked', hserving', hrefused'⟩ := ih (by rw [stopping_step, hs, Bool.true_or]) h₁
    refine ⟨l', h', ?_, ?_, ?_⟩
    · intro ht
      exact htracked (htracked' ht)
    · intro hv
      exact hserving (hserving' hv)
    · intro hr
      exact hrefused' (hrefused hr)

/-- A line that is not known yet is turned away when it is accepted. -/
theorem refused_of_unknown (hs : s.stopping = true) (h : s.line? id = none)
    (h' : (s.run steps).line? id = some l) : l.stage = .refused := by
  induction steps generalizing s with
  | nil =>
    rw [show s.run [] = s from rfl, h] at h'
    cases h'
  | cons st steps ih =>
    have hs' : (s.step st).stopping = true := by rw [stopping_step, hs, Bool.true_or]
    cases hnew : (s.step st).line? id with
    | none => exact ih hs' hnew h'
    | some l₁ =>
      have hstage := (accepted_of_new h hnew).1
      rw [hs, if_pos rfl] at hstage
      obtain ⟨l₂, h₂, -, -, hrefused⟩ := known_run hs' hnew steps
      cases h'.symm.trans h₂
      exact hrefused hstage

/-- Who is to be registered is turned away. -/
theorem enter_of_stopping (hs : s.stopping = true) (id : Nat) (stage : Stage) : s.enter id stage = s.decline id := by
  unfold enter decline
  congr 1
  funext l
  by_cases hq : l.stage = .queued <;> simp [hq, hs]

theorem step_of_registers (hs : s.stopping = true) {st : Step} (h : st.registers id) : s.step st = s.decline id := by
  cases st with
  | register => cases h; exact enter_of_stopping hs ..
  | abandon => cases h; exact enter_of_stopping hs ..
  | _ => cases h

/-- Who is turned away has the stream shut down, and the table stays as it is. -/
theorem decline_spec (h : s.line? id = some l) (hq : l.stage = .queued) :
    (s.decline id).line? id = some { l with stage := .refused, shut := true } ∧
      Beside id s (s.decline id) ∧ (s.decline id).sessionCount = s.sessionCount := by
  have hid : ∀ l : Line, (if l.stage = .queued then { l with stage := .refused, shut := true } else l : Line).id =
      l.id := by
    intro l
    split <;> rfl
  refine ⟨?_, beside_modify hid s id, ?_⟩
  · refine (line?_modify_self hid h).trans ?_
    rw [if_pos hq]
  · rw [sessionCount, decline, modify, List.countP_map, sessionCount]
    congr 1
    funext l
    simp only [Function.comp]
    split
    · split <;> rfl
    · rfl

/-! ## From the sweep on -/

variable (router : Router τ) (service : τ) (settings : ServerSettings)

/-- **Nobody slips past a stop.** Consider a server at any time after it was stopped. Every stream in its table is
shut down and was in the table when it was stopped; so is the stream of every session that is served, and its peer
reads the end of the stream. A connection that was accepted before and not yet registered is turned away when it is
to be registered, its stream shut down and the table unchanged; one that was accepted since is never served. -/
theorem stopped_for_good (before after : List Step) :
    let stopped := ((fresh router service settings).run before).stop
    let s := stopped.run after
    (∀ l ∈ s.lines, l.tracked = true ∨ l.stage = .serving →
      l.shut = true ∧ (∃ l₀, stopped.line? l.id = some l₀ ∧ l₀.tracked = true) ∧
        ∀ peer, (Link.gather ⟨s, l.id, peer⟩).connection.stream.ending = none) ∧
    (∀ id l st, s.line? id = some l → l.stage = .queued → st.registers id →
      (s.step st).line? id = some { l with stage := .refused, shut := true } ∧ Beside id s (s.step st) ∧
        (s.step st).sessionCount = s.sessionCount) ∧
    ∀ l ∈ s.lines, stopped.nextId ≤ l.id → l.stage = .refused ∧ l.tracked = false := by
  intro stopped s
  have hstopped : stopped.stopping = true := rfl
  have hs : s.stopping = true := stopping_run hstopped after
  have hrun : s = (fresh router service settings).run (before ++ .stop :: after) :=
    (run_append (fresh router service settings) before (.stop :: after)).symm
  have hsound : ∀ l ∈ s.lines, s.line? l.id = some l ∧ l.Sound true := by
    intro l hmem
    have hnumbered := numbered_run router service settings (before ++ .stop :: after)
    have hl : s.line? l.id = some l := by
      rw [hrun] at hmem ⊢
      exact hnumbered.line?_eq hmem
    refine ⟨hl, ?_⟩
    rw [← hs, hrun]
    rw [hrun] at hl
    exact sound_run router service settings _ hl
  refine ⟨?_, ?_, ?_⟩
  · intro l hmem hthere
    obtain ⟨hl, hl'⟩ := hsound l hmem
    have ht : l.tracked = true := hthere.elim (fun ht => ht) hl'.serving
    have hshut := hl'.shut ht
    refine ⟨hshut, ?_, ?_⟩
    · cases hthen : stopped.line? l.id with
      | none =>
        have hrefused := refused_of_unknown hstopped hthen hl
        exact absurd ((hl'.refused hrefused).symm.trans ht) Bool.false_ne_true
      | some l₀ =>
        obtain ⟨l', h', htracked, -⟩ := known_run hstopped hthen after
        cases hl.symm.trans h'
        exact ⟨l₀, rfl, htracked ht⟩
    · intro peer
      rw [Link.ending_gather hl, if_pos (Line.isClosed_of_shut hshut)]
  · intro id l st h hq hst
    rw [step_of_registers hs hst]
    exact decline_spec h hq
  · intro l hmem hlate
    obtain ⟨hl, hl'⟩ := hsound l hmem
    have hunknown : stopped.line? l.id = none := by
      have hnumbered := numbered_run router service settings (before ++ [.stop])
      rw [run_concat] at hnumbered
      rw [line?, List.find?_eq_none]
      intro l₀ hmem₀ hid
      have hbelow := hnumbered.below l₀.id (List.mem_map_of_mem hmem₀)
      rw [of_decide_eq_true hid] at hbelow
      exact absurd hbelow (Nat.not_lt.2 hlate)
    have hrefused := refused_of_unknown hstopped hunknown hl
    exact ⟨hrefused, hl'.refused hrefused⟩

/-- One peer is served when the server is stopped, one is registered too late, and one comes too late. -/
theorem stopped_for_good_race :
    let server : Server Unit := fresh {} () {}
    let s := server.run [.accept, .register 1, .accept, .stop, .accept]
    (∃ l, s.line? 1 = some l ∧ l.stage = .serving ∧ l.shut = true) ∧
      (∃ l, (s.step (.register 2)).line? 2 = some l ∧ l.stage = .refused ∧ l.shut = true) ∧
      ∃ l, s.line? 3 = some l ∧ l.stage = .refused := by
  intro server s
  obtain ⟨hshut, hrefused, hlate⟩ :=
    stopped_for_good server.router server.service server.settings [.accept, .register 1, .accept] [.accept]
  have hstages : [1, 2, 3].map (fun id => (s.line? id).map (·.stage)) =
      [some .serving, some .queued, some .refused] := by decide
  simp only [List.map_cons, List.map_nil, List.cons.injEq, and_true, Option.map_eq_some_iff] at hstages
  obtain ⟨⟨l₁, h₁, hserving⟩, ⟨l₂, h₂, hqueued⟩, l₃, h₃, -⟩ := hstages
  refine ⟨⟨l₁, h₁, hserving, ?_⟩, ⟨_, (hrefused 2 l₂ (.register 2) h₂ hqueued rfl).1, rfl, rfl⟩, l₃, h₃, ?_⟩
  · exact (hshut l₁ (List.mem_of_find?_eq_some h₁) (.inr hserving)).1
  · refine (hlate l₃ (List.mem_of_find?_eq_some h₃) ?_).1
    rw [id_of_line? h₃]
    decide

end Server
end FrameFeed
