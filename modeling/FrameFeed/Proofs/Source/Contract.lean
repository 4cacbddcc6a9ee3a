import FrameFeed.Feed.Source
/-!
# The contract of sources

Whether a source has a current frame, and of which bytes, decides what calls to it may come to (`Told.Turns`).
A log of calls that is kept by such a state (`Tracks`) honours the contract: a frame is shown exactly if the
last call for one got it, and until the next such call it is always the same (`Tracks.honours`).
-/
namespace FrameFeed

/-! ## Calls -/

inductive SourceCall where
  | metadata
  | next
  | current
  | bytes
  | copyInto (buffer : Bytes)
  | execute (action : String)

/-- A call and what it came to. -/
inductive Told where
  | metadata (r : Call Metadata)
  | next (r : Call Unit)
  | current (r : Call View)
  | bytes (r : Call Bytes)
  /-- The frame is copied into a buffer, which holds `after` then. -/
  | copied (r : Call View) (after : Bytes)
  | executed (action : String) (r : Call Unit)

namespace SourceCall

variable {σ : Type} [FrameSource σ]

def run (k : SourceCall) (s : σ) : Told × σ :=
  match k with
  | metadata => (.metadata (FrameSource.metadata s).1, (FrameSource.metadata s).2)
  | next => (.next (FrameSource.next s).1, (FrameSource.next s).2)
  | current => (.current (FrameSource.current s), s)
  | bytes => (.bytes (FrameSource.bytes s), s)
  | copyInto buffer =>
    match FrameSource.current s with
    | .returned frame =>
      let (r, after) := FrameFeed.copyInto frame buffer
      (.copied (.returned r) after, s)
    | .crashed => (.copied .crashed buffer, s)
  | execute a => (.executed a (FrameSource.execute a s).1, (FrameSource.execute a s).2)

/-- Calls one after the other: what they came to, and the source they leave. -/
def runAll : List SourceCall → σ → List Told × σ
  | [], s => ([], s)
  | k :: ks, s =>
    let (t, s) := k.run s
    let (ts, s) := runAll ks s
    (t :: ts, s)

end SourceCall

/-! ## The contract -/

namespace Told

def isNext : Told → Bool
  | next _ => true
  | _ => false

/-- The bytes that a call showed. -/
def shown? : Told → Option Bytes
  | current (.returned (.ok v)) => some v.data
  | bytes (.returned (.ok b)) => some b
  | copied (.returned (.ok v)) _ => some v.data
  | _ => none

/-- An action that takes the frame away, and was done. -/
def resets (actions : String → Bool) : Told → Bool
  | executed a (.returned (.ok ())) => actions a
  | _ => false

end Told

section
variable {actions : String → Bool} {log before between : List Told} {t : Told} {held held' : Option Bytes}

/-- The last call for a frame got one, and it was not taken away since. -/
def Fetched (actions : String → Bool) (log : List Told) : Prop :=
  ∃ before after, log = before ++ .next (.ok ()) :: after ∧
    ∀ t ∈ after, t.isNext = false ∧ t.resets actions = false

/-- A call that shows the frame succeeds if there is one, and otherwise says that there is none. A copy may
also fail because the buffer is too small; if it does not, the buffer begins with the frame. -/
def Told.Succeeds (actions : String → Bool) (before : List Told) : Told → Prop
  | .current r =>
    (Fetched actions before → ∃ v, r = .ok v) ∧ (¬Fetched actions before → r = .error .noFrame)
  | .bytes r =>
    (Fetched actions before → ∃ b, r = .ok b) ∧ (¬Fetched actions before → r = .error .noFrame)
  | .copied r after =>
    (Fetched actions before →
      (∃ v, r = .ok v ∧ v.data <+: after) ∨ ∃ m n, r = .error (.insufficientCapacity m n)) ∧
    (¬Fetched actions before → r = .error .noFrame)
  | _ => True

/-- A call shows what was shown before, unless the next frame was called for in between. -/
def Told.Agrees (before : List Told) (t : Told) : Prop :=
  ∀ earlier a between x y, before = earlier ++ a :: between → (∀ u ∈ between, u.isNext = false) →
    a.shown? = some x → t.shown? = some y → x = y

/-- **The contract.** `actions` are those that take the frame away. -/
def Honours (actions : String → Bool) (log : List Told) : Prop :=
  ∀ before t after, log = before ++ t :: after → t.Succeeds actions before ∧ t.Agrees before

/-! ## The state behind it -/

/-- What a call may come to that neither fetches a frame nor fails to, for a source with these bytes. -/
inductive Told.Fits : Option Bytes → Told → Prop where
  | metadata {held : Option Bytes} {r : Call Metadata} : Fits held (.metadata r)
  | executed {held : Option Bytes} {a : String} {r : Call Unit} : Fits held (.executed a r)
  | current {m : Metadata} {data : Bytes} : Fits (some data) (.current (.ok ⟨m, data⟩))
  | noCurrent : Fits none (.current (.error .noFrame))
  | bytes {data : Bytes} : Fits (some data) (.bytes (.ok data))
  | noBytes : Fits none (.bytes (.error .noFrame))
  | copied {m : Metadata} {data rest : Bytes} : Fits (some data) (.copied (.ok ⟨m, data⟩) (data ++ rest))
  | small {m : Metadata} {n : Nat} {data after : Bytes} :
    Fits (some data) (.copied (.error (.insufficientCapacity m n)) after)
  | noCopy {after : Bytes} : Fits none (.copied (.error .noFrame) after)

/-- What a call may come to, and the bytes of the frame that is current then. -/
inductive Told.Turns (actions : String → Bool) (held : Option Bytes) : Told → Option Bytes → Prop where
  | fetch (data : Bytes) : Turns actions held (.next (.ok ())) (some data)
  | miss (e : FrameError) : Turns actions held (.next (.error e)) none
  | reset {t : Told} (hn : t.isNext = false) (hr : t.resets actions = true) (hf : t.Fits held) :
    Turns actions held t none
  | keep {t : Told} (hn : t.isNext = false) (hr : t.resets actions = false) (hf : t.Fits held) :
    Turns actions held t held

/-- A log of calls to a source that had no frame at first. -/
inductive Tracks (actions : String → Bool) : List Told → Option Bytes → Prop where
  | start : Tracks actions [] none
  | turn {log : List Told} {t : Told} {held held' : Option Bytes} (h : Tracks actions log held)
    (ht : t.Turns actions held held') : Tracks actions (log ++ [t]) held'

/-! ## From the state to the contract -/

/-- A place in a longer log is a place in the log or the new end. -/
theorem split_concat {α : Type} {l before after : List α} {x a : α} (h : l ++ [x] = before ++ a :: after) :
    (before = l ∧ a = x ∧ after = []) ∨ ∃ rest, after = rest ++ [x] ∧ l = before ++ a :: rest := by
  rcases List.eq_nil_or_concat after with rfl | ⟨rest, y, rfl⟩
  · obtain ⟨rfl, hx⟩ := List.append_inj' h rfl
    exact .inl ⟨rfl, (List.cons.inj hx).1.symm, rfl⟩
  · rw [List.concat_eq_append, ← List.cons_append, ← List.append_assoc] at h
    obtain ⟨rfl, hx⟩ := List.append_inj' h rfl
    exact .inr ⟨rest, by rw [List.concat_eq_append, (List.cons.inj hx).1], rfl⟩

theorem not_fetched_nil : ¬Fetched actions [] := by
  rintro ⟨before, after, h, -⟩
  simp at h

theorem fetched_concat : Fetched actions (log ++ [t]) ↔
    t = .next (.ok ()) ∨ t.isNext = false ∧ t.resets actions = false ∧ Fetched actions log := by
  constructor
  · rintro ⟨before, after, h, hafter⟩
    rcases split_concat h with ⟨-, rfl, -⟩ | ⟨rest, rfl, rfl⟩
    · exact .inl rfl
    · obtain ⟨hn, hr⟩ := hafter t (by simp)
      exact .inr ⟨hn, hr, before, rest, rfl, fun u hu => hafter u (by simp [hu])⟩
  · rintro (rfl | ⟨hn, hr, before, after, rfl, hafter⟩)
    · exact ⟨log, [], rfl, List.forall_mem_nil _⟩
    · refine ⟨before, after ++ [t], by simp, ?_⟩
      intro u hu
      rcases List.mem_append.1 hu with hu | hu
      · exact hafter u hu
      · rw [List.mem_singleton.1 hu]; exact ⟨hn, hr⟩

theorem Told.Turns.fetched (h : t.Turns actions held held') (ih : held.isSome = true ↔ Fetched actions log) :
    held'.isSome = true ↔ Fetched actions (log ++ [t]) := by
  rw [fetched_concat]
  cases h with
  | fetch data => simp
  | miss e => simp [Told.isNext, Call.ok, Call.error]
  | reset hn hr hf =>
    have : t ≠ .next (.ok ()) := by rintro rfl; cases hn
    simp [this, hr]
  | keep hn hr hf =>
    have : t ≠ .next (.ok ()) := by rintro rfl; cases hn
    simp [this, hn, hr, ih]

theorem Tracks.fetched (h : Tracks actions log held) : held.isSome = true ↔ Fetched actions log := by
  induction h with
  | start => simp [not_fetched_nil]
  | turn _ ht ih => exact ht.fetched ih

theorem Told.Fits.succeeds (h : t.Fits held) (hf : held.isSome = true ↔ Fetched actions log) :
    t.Succeeds actions log := by
  cases h with
  | metadata | executed => trivial
  | current | bytes =>
    have hfetched := hf.1 rfl
    exact ⟨fun _ => ⟨_, rfl⟩, fun hn => absurd hfetched hn⟩
  | noCurrent | noBytes | noCopy =>
    have hnone : ¬Fetched actions log := fun h => Bool.false_ne_true (hf.2 h)
    exact ⟨fun h => absurd h hnone, fun _ => rfl⟩
  | copied =>
    have hfetched := hf.1 rfl
    exact ⟨fun _ => .inl ⟨_, rfl, List.prefix_append _ _⟩, fun hn => absurd hfetched hn⟩
  | small =>
    have hfetched := hf.1 rfl
    exact ⟨fun _ => .inr ⟨_, _, rfl⟩, fun hn => absurd hfetched hn⟩

theorem Told.Turns.succeeds (h : t.Turns actions held held') (hf : held.isSome = true ↔ Fetched actions log) :
    t.Succeeds actions log := by
  cases h with
  | fetch | miss => trivial
  | reset _ _ ht | keep _ _ ht => exact ht.succeeds hf

/-- What a call shows is what the source holds. -/
theorem Told.Turns.shown (h : t.Turns actions held held') {x : Bytes} (hx : t.shown? = some x) :
    held = some x := by
  cases h with
  | fetch | miss => cases hx
  | reset _ _ ht | keep _ _ ht =>
    cases ht with
    | current | bytes | copied => exact hx
    | _ => cases hx

/-- What was shown since the last call for a frame is held still, unless it was taken away. -/
theorem Tracks.recent (h : Tracks actions log held) {earlier : List Told} {a : Told} {x : Bytes}
    (hlog : log = earlier ++ a :: between) (hbetween : ∀ u ∈ between, u.isNext = false)
    (hx : a.shown? = some x) : held = some x ∨ held = none := by
  induction h generalizing between with
  | start => simp at hlog
  | @turn log t held held' _ ht ih =>
    rcases split_concat hlog with ⟨-, rfl, -⟩ | ⟨rest, rfl, hrest⟩
    · have hheld := ht.shown hx
      cases ht with
      | fetch | miss => cases hx
      | reset => exact .inr rfl
      | keep => exact .inl hheld
    · have hn := hbetween t (by simp)
      have hearlier := ih hrest fun u hu => hbetween u (by simp [hu])
      cases ht with
      | fetch | miss => cases hn
      | reset => exact .inr rfl
      | keep => exact hearlier

/-- **Such a log honours the contract.** -/
theorem Tracks.honours (h : Tracks actions log held) : Honours actions log := by
  induction h with
  | start =>
    intro before t after hlog
    simp at hlog
  | @turn log t held held' h ht ih =>
    intro before a after hlog
    rcases split_concat hlog with ⟨rfl, rfl, -⟩ | ⟨rest, -, hrest⟩
    · refine ⟨ht.succeeds h.fetched, ?_⟩
      intro earlier b between x y hbefore hbetween hx hy
      have hheld := ht.shown hy
      rcases h.recent hbefore hbetween hx with hsome | hnone
      · rw [hsome] at hheld
        exact Option.some.inj hheld
      · rw [hnone] at hheld
        cases hheld
    · exact ih before a rest hrest

end

end FrameFeed
