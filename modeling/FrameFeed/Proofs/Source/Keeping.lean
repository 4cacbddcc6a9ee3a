import FrameFeed.Feed.Handoff
import FrameFeed.Feed.Pattern
import FrameFeed.Proofs.Client.Views
import FrameFeed.Proofs.Slot.Moves
import FrameFeed.Proofs.Source.Contract
/-!
# Sources that keep the contract

A source of a pattern, a source fed through a slot and a client keep their frames in ways of their own. For
each of them there is what it holds after a call (`PatternSource.turns`, `HandoffSource.Course.tracks`,
`Client.turns`), so that all of them honour the contract of sources (`sources_honour_contract`).
-/
namespace FrameFeed

/-! ## Looking at a frame -/

section
variable {σ : Type} [FrameSource σ] {actions : String → Bool} {s : σ}

/-- A source that shows these bytes, or has none to show. -/
inductive Shows (s : σ) : Option Bytes → Prop where
  | frame {m : Metadata} {data : Bytes} (hcurrent : FrameSource.current s = .ok ⟨m, data⟩)
    (hbytes : FrameSource.bytes s = .ok data) : Shows s (some data)
  | nothing (hcurrent : FrameSource.current s = .error .noFrame)
    (hbytes : FrameSource.bytes s = .error .noFrame) : Shows s none

/-- Calls that look at the frame. -/
def SourceCall.looks : SourceCall → Bool
  | current | bytes | copyInto _ => true
  | _ => false

/-- They leave the source as it is. -/
theorem run_of_looks {k : SourceCall} (hk : k.looks = true) (s : σ) : (k.run s).2 = s := by
  cases k with
  | current | bytes => rfl
  | copyInto buffer =>
    rw [SourceCall.run]
    cases FrameSource.current s <;> rfl
  | metadata | next | execute => cases hk

/-- A copy fits the frame that is copied. -/
theorem fits_copyInto (m : Metadata) (data buffer : Bytes) :
    let (r, after) := copyInto (.ok ⟨m, data⟩) buffer
    (Told.copied (.returned r) after).Fits (some data) := by
  simp only [copyInto]
  by_cases hsmall : buffer.length < max (View.length ⟨m, data⟩) m.size
  · rw [if_pos hsmall]
    exact .small
  · rw [if_neg hsmall]
    exact .copied

theorem Shows.fits {held : Option Bytes} (h : Shows s held) {k : SourceCall} (hk : k.looks = true) :
    (k.run s).1.Fits held := by
  cases k with
  | current =>
    rw [SourceCall.run]
    cases h with
    | frame hcurrent => rw [hcurrent]; exact .current
    | nothing hcurrent => rw [hcurrent]; exact .noCurrent
  | bytes =>
    rw [SourceCall.run]
    cases h with
    | frame _ hbytes => rw [hbytes]; exact .bytes
    | nothing _ hbytes => rw [hbytes]; exact .noBytes
  | copyInto buffer =>
    rw [SourceCall.run]
    cases h with
    | @frame m data hcurrent => rw [hcurrent]; exact fits_copyInto m data buffer
    | nothing hcurrent => rw [hcurrent]; exact .noCopy
  | metadata | next | execute => cases hk

/-- What a call that looks comes to is neither a call for a frame nor a reset. -/
theorem Shows.keeps {held : Option Bytes} (h : Shows s held) {k : SourceCall} (hk : k.looks = true) :
    (k.run s).1.Turns actions held held := by
  refine .keep ?_ ?_ (h.fits hk)
  all_goals
    cases k with
    | current | bytes => rfl
    | copyInto buffer =>
      rw [SourceCall.run]
      cases FrameSource.current s <;> rfl
    | metadata | next | execute => cases hk

/-- An action changes nothing that is held where no action is one that takes the frame away. -/
theorem Told.Turns.executed (held : Option Bytes) (a : String) (r : Call Unit) :
    (Told.executed a r).Turns (fun _ => false) held held := by
  refine .keep rfl ?_ .executed
  unfold Told.resets
  split <;> rfl

/-- Where every call keeps to what the source holds, so do all calls. -/
theorem tracks_runAll (held : σ → Option Bytes) (Sound : σ → Prop)
    (hturn : ∀ (k : SourceCall) (s : σ), Sound s →
      (k.run s).1.Turns actions (held s) (held (k.run s).2) ∧ Sound (k.run s).2)
    {log : List Told} (h : Tracks actions log (held s)) (hs : Sound s) (ks : List SourceCall) :
    Tracks actions (log ++ (SourceCall.runAll ks s).1) (held (SourceCall.runAll ks s).2) := by
  induction ks generalizing s log with
  | nil => rw [SourceCall.runAll, List.append_nil]; exact h
  | cons k ks ih =>
    obtain ⟨ht, hs'⟩ := hturn k s hs
    have hrest := ih (h.turn ht) hs'
    rw [List.append_assoc] at hrest
    exact hrest

end

/-! ## Sources of patterns -/

namespace PatternSource

theorem shows (s : PatternSource) : Shows s s.frame := by
  have hcurrent : FrameSource.current s = .returned s.current := rfl
  have hbytes : FrameSource.bytes s = Call.map View.data (.returned s.current) := rfl
  rw [current] at hcurrent hbytes
  rw [frame]
  cases hf : s.hasFrame with
  | false => rw [hf] at hcurrent hbytes; exact .nothing hcurrent hbytes
  | true => rw [hf] at hcurrent hbytes; exact .frame hcurrent hbytes

/-- A source of a pattern lets go of its frame when it is over and when it is reset. -/
theorem turns (k : SourceCall) (s : PatternSource) :
    (k.run s).1.Turns (· = "reset") s.frame (k.run s).2.frame := by
  by_cases hk : k.looks = true
  · rw [run_of_looks hk]
    exact s.shows.keeps hk
  cases k with
  | metadata => exact .keep rfl rfl .metadata
  | next =>
    show (Told.next (.returned s.next.1)).Turns _ s.frame s.next.2.frame
    unfold next
    split
    · exact .miss .endOfStream
    · exact .fetch _
  | execute a =>
    show (Told.executed a (.returned (s.execute a).1)).Turns _ s.frame (s.execute a).2.frame
    unfold execute
    by_cases ha : a = "reset"
    · rw [if_pos ha]
      exact .reset rfl (decide_eq_true ha) .executed
    · rw [if_neg ha]
      exact .keep rfl rfl .executed
  | current | bytes | copyInto => exact absurd rfl hk

end PatternSource

/-! ## Sources fed through a slot -/

namespace HandoffSource

/-- What a source goes through that has this metadata at first, with the frames it pulled: calls to it, and
what producers do at its slot between them and while it waits for the next frame. Its handler of actions may
answer otherwise whenever it is asked. -/
inductive Course (m : Metadata) : List Told → List PublishedFrame → HandoffSource → Prop where
  | new (slot : Slot) (actions : Actions) : Course m [] [] { metadata := m, slot, actions }
  | produce {log : List Told} {fs : List PublishedFrame} {h : HandoffSource} {rs : List Slot.ActResult}
    {slot : Slot} (hc : Course m log fs h) (hr : Slot.Runs .idle h.slot rs [] .idle slot) :
    Course m log fs { h with slot }
  | next {log : List Told} {fs : List PublishedFrame} {h : HandoffSource} {rs : List Slot.ActResult}
    {answer : Except FrameError PublishedFrame} {slot : Slot} (hc : Course m log fs h)
    (hr : Slot.Runs .idle h.slot rs [answer] .idle slot) :
    Course m (log ++ [.next (.returned (settle answer { h with slot }).1)])
      (fs ++ answer.toOption.toList) (settle answer { h with slot }).2
  | call {log : List Told} {fs : List PublishedFrame} {h : HandoffSource} {k : SourceCall}
    (hc : Course m log fs h) (hk : k ≠ .next) : Course m (log ++ [(k.run h).1]) fs (k.run h).2
  | handler {log : List Told} {fs : List PublishedFrame} {h : HandoffSource} (hc : Course m log fs h)
    (actions : Actions) : Course m log fs { h with actions }

/-- The view of a frame that was pulled. -/
def viewOf (f : PublishedFrame) : View := ⟨f.metadata, f.data⟩

/-- The metadata of the frame pulled last, or those at first. -/
def described (m : Metadata) (fs : List PublishedFrame) : Metadata := (fs.getLast?.map (·.metadata)).getD m

theorem current_eq_ok {h : HandoffSource} {v : View} :
    FrameSource.current h = .ok v ↔ ∃ f, h.frame = some f ∧ v = viewOf f := by
  show Call.returned h.current = _ ↔ _
  unfold current
  cases h.frame <;> simp [Call.ok, viewOf, eq_comm]

theorem shows (h : HandoffSource) : Shows h (h.frame.map (·.data)) := by
  have hbytes : FrameSource.bytes h = (FrameSource.current h).map View.data := rfl
  cases hf : h.frame with
  | none =>
    have hcurrent : FrameSource.current h = .error .noFrame := by
      show Call.returned h.current = _
      rw [current, hf]
      rfl
    exact .nothing hcurrent (by rw [hbytes, hcurrent]; rfl)
  | some f =>
    have hcurrent := current_eq_ok.2 ⟨f, hf, rfl⟩
    exact .frame hcurrent (by rw [hbytes, hcurrent]; rfl)

/-- Only a call for the next frame changes a source. -/
theorem turns_of_ne_next {k : SourceCall} (hk : k ≠ .next) (h : HandoffSource) :
    (k.run h).1.Turns (fun _ => false) (h.frame.map (·.data)) (h.frame.map (·.data)) ∧ (k.run h).2 = h := by
  by_cases hlook : k.looks = true
  · exact ⟨h.shows.keeps hlook, run_of_looks hlook h⟩
  cases k with
  | metadata => exact ⟨.keep rfl rfl .metadata, rfl⟩
  | next => exact absurd rfl hk
  | execute a => exact ⟨.executed _ a _, rfl⟩
  | current | bytes | copyInto => exact absurd rfl hlook

namespace Course

variable {m : Metadata} {log : List Told} {fs : List PublishedFrame} {h : HandoffSource}

/-- A whole call, given what producers do during it, is one of the things a source goes through. -/
theorem pull (hc : Course m log fs h) (during : Option Nat → List Slot.Act) :
    Course m (log ++ [.next (.returned (h.next during).2.1)])
      (fs ++ (h.slot.pull during).2.1.toOption.toList) (h.next during).2.2 :=
  hc.next (Slot.runs_pull during h.slot)

theorem tracks (hc : Course m log fs h) : Tracks (fun _ => false) log (h.frame.map (·.data)) := by
  induction hc with
  | new => exact .start
  | produce _ _ ih => exact ih
  | @next log fs h rs answer slot _ _ ih =>
    refine ih.turn ?_
    cases answer with
    | ok f => exact .fetch f.data
    | error e => exact .miss e
  | @call log fs h k _ hk ih =>
    obtain ⟨ht, hs⟩ := turns_of_ne_next hk h
    rw [hs]
    exact ih.turn ht
  | handler _ _ ih => exact ih

/-- The metadata follow the frames that were pulled, and the frame that is held is the last of them. -/
theorem follows (hc : Course m log fs h) :
    h.metadata = described m fs ∧ ∀ f, h.frame = some f → fs.getLast? = some f := by
  induction hc with
  | new =>
    refine ⟨rfl, ?_⟩
    intro f hf
    cases hf
  | produce _ _ ih => exact ih
  | @next log fs h rs answer slot _ _ ih =>
    cases answer with
    | ok f => simp [settle, described, Except.toOption]
    | error e => simpa [settle, Except.toOption] using ih.1
  | @call log fs h k _ hk ih =>
    rw [(turns_of_ne_next hk h).2]
    exact ih
  | handler _ _ ih => exact ih

end Course

end HandoffSource

/-! ## Clients -/

namespace Client

variable {σ : Type} [Channel σ]

/-- Where a client has a frame, it has metadata. -/
def Described (c : Client σ) : Prop := c.frame.isSome = true → c.metadata.isSome = true

theorem Described.shows {c : Client σ} (h : c.Described) : Shows c c.frame := by
  have hcurrent : FrameSource.current c = .returned c.current := rfl
  have hbytes : FrameSource.bytes c = (FrameSource.current c).map View.data := rfl
  cases hf : c.frame with
  | none =>
    rw [current, hf] at hcurrent
    exact .nothing hcurrent (by rw [hbytes, hcurrent]; rfl)
  | some data =>
    obtain ⟨m, hm⟩ := Option.isSome_iff_exists.1 (h (by rw [hf]; rfl))
    rw [current_eq_ok (v := ⟨m, data⟩) |>.2 ⟨hf, hm⟩] at hcurrent
    exact .frame hcurrent (by rw [hbytes, hcurrent]; rfl)

/-- A client holds the frame it fetched until it is asked for the next one, whatever the server does. -/
theorem turns (k : SourceCall) (c : Client σ) (h : c.Described) :
    (k.run c).1.Turns (fun _ => false) c.frame (k.run c).2.frame ∧ (k.run c).2.Described := by
  by_cases hk : k.looks = true
  · rw [run_of_looks hk]
    exact ⟨h.shows.keeps hk, h⟩
  cases k with
  | metadata =>
    have hframe : (FrameSource.metadata c).2.frame = c.frame := frame_known c
    refine ⟨?_, ?_⟩
    · rw [SourceCall.run, hframe]
      exact .keep rfl rfl .metadata
    · intro hsome
      obtain ⟨m, hm⟩ := Option.isSome_iff_exists.1 (h (hframe ▸ hsome))
      have hknown : (FrameSource.metadata c).2 = c := congrArg Prod.snd (known_of_some hm)
      rw [SourceCall.run, hknown, hm]
      rfl
  | next =>
    show (Told.next (.returned c.next.1)).Turns _ c.frame c.next.2.frame ∧ c.next.2.Described
    rcases next_cases (c := c) with ⟨hok, data, m, hf, hm, -⟩ | ⟨⟨e, he⟩, hf⟩
    · rw [hok, hf]
      exact ⟨.fetch data, fun _ => by rw [hm]; rfl⟩
    · rw [he, hf]
      exact ⟨.miss e, fun hsome => by rw [hf] at hsome; cases hsome⟩
  | execute a =>
    have hframe : (FrameSource.execute a c).2.frame = c.frame := frame_run (k := .execute a) nofun
    refine ⟨?_, ?_⟩
    · rw [SourceCall.run, hframe]
      exact .executed _ a _
    · intro hsome
      obtain ⟨m, hm⟩ := Option.isSome_iff_exists.1 (h (hframe ▸ hsome))
      have hkept : (FrameSource.execute a c).2.metadata = some m :=
        metadata_run (k := .execute a) nofun nofun hm
      rw [SourceCall.run, hkept]
      rfl
  | current | bytes | copyInto => exact absurd rfl hk

end Client

/-! ## All of them -/

/-- **Sources honour the contract.** Whatever calls are made, and whatever producers or the server do: a
source shows a frame if the last call for one got it, and otherwise says that there is none, a reset of a
source of patterns taking its frame away; and until the next such call it shows the same bytes. The metadata
of a source fed through a slot are those of the frame it pulled last, or those it had at first, and they are
the ones that its frame is shown with. -/
theorem sources_honour_contract :
    (∀ (m : Metadata) (p : Pattern) (limit : Option Nat) (ks : List SourceCall),
      Honours (· = "reset")
        (SourceCall.runAll ks ({ metadata := m, pattern := p, limit } : PatternSource)).1) ∧
    (∀ (m : Metadata) (log : List Told) (fs : List PublishedFrame) (h : HandoffSource),
      HandoffSource.Course m log fs h → Honours (fun _ => false) log ∧
        FrameSource.metadata h = (.ok (HandoffSource.described m fs), h) ∧
        ∀ v, FrameSource.current h = .ok v → v.metadata = HandoffSource.described m fs ∧
          ∃ f, fs.getLast? = some f ∧ v = HandoffSource.viewOf f) ∧
    ∀ (σ : Type) [Channel σ] (endpoint : Endpoint) (channel : σ) (ks : List SourceCall),
      Honours (fun _ => false) (SourceCall.runAll ks ({ endpoint, channel } : Client σ)).1 := by
  refine ⟨?_, ?_, ?_⟩
  · intro m p limit ks
    have hlog := tracks_runAll PatternSource.frame (fun _ => True) (fun k s _ => ⟨s.turns k, trivial⟩)
      (s := { metadata := m, pattern := p, limit }) .start trivial ks
    exact hlog.honours
  · intro m log fs h hc
    obtain ⟨hmetadata, hlast⟩ := hc.follows
    refine ⟨hc.tracks.honours, ?_, ?_⟩
    · show (Call.returned (.ok h.metadata), h) = _
      rw [hmetadata]
      rfl
    · intro v hv
      obtain ⟨f, hf, rfl⟩ := HandoffSource.current_eq_ok.1 hv
      have hf := hlast f hf
      exact ⟨by rw [HandoffSource.described, hf]; rfl, f, hf, rfl⟩
  · intro σ _ endpoint channel ks
    have hlog := tracks_runAll Client.frame Client.Described (fun k c hc => c.turns k hc)
      (s := { endpoint, channel }) .start nofun ks
    exact hlog.honours

/-- A source that is fed a frame, waits in vain for the next one and is fed another, of other metadata. -/
theorem contract_of_fed_source :
    let wide : Metadata := { (default : Metadata) with width := 2 }
    let first : PublishedFrame := ⟨wide, [1, 2], 1⟩
    let second : PublishedFrame := ⟨default, [3], 3⟩
    let feed (f : PublishedFrame) (_ : Option Nat) : List Slot.Act := [.publish f.ticket f.metadata f.data]
    let h : HandoffSource := { metadata := default }
    let h := (h.next (feed first)).2.2
    let h := (h.next fun _ => []).2.2
    let h := (h.next (feed second)).2.2
    let log : List Told :=
      [.bytes (.error .noFrame), .next (.ok ()), .bytes (.ok [1, 2]), .next (.error .timeout),
        .bytes (.error .noFrame), .metadata (.ok wide), .next (.ok ()), .current (.ok ⟨default, [3]⟩)]
    HandoffSource.Course default log [first, second] h ∧ Honours (fun _ => false) log ∧
      FrameSource.current h = .ok ⟨default, [3]⟩ ∧
        default = HandoffSource.described default [first, second] := by
  intro wide first second feed h h₁ h₂ h₃ log
  have hnew : HandoffSource.Course default [] [] h := .new {} _
  have hlooked : HandoffSource.Course default (log.take 1) [] h := hnew.call (k := .bytes) nofun
  have hfirst : HandoffSource.Course default (log.take 2) [first] h₁ := hlooked.pull (feed first)
  have hshown : HandoffSource.Course default (log.take 3) [first] h₁ := hfirst.call (k := .bytes) nofun
  have hmissed : HandoffSource.Course default (log.take 4) [first] h₂ := hshown.pull fun _ => []
  have hgone : HandoffSource.Course default (log.take 5) [first] h₂ := hmissed.call (k := .bytes) nofun
  have hknown : HandoffSource.Course default (log.take 6) [first] h₂ := hgone.call (k := .metadata) nofun
  have hsecond : HandoffSource.Course default (log.take 7) [first, second] h₃ := hknown.pull (feed second)
  have hend : HandoffSource.Course default log [first, second] h₃ := hsecond.call (k := .current) nofun
  obtain ⟨hhonours, -, hview⟩ := sources_honour_contract.2.1 default log [first, second] h₃ hend
  have hcurrent : FrameSource.current h₃ = .ok ⟨default, [3]⟩ := rfl
  exact ⟨hend, hhonours, hcurrent, (hview _ hcurrent).1⟩

end FrameFeed
