import FrameFeed.Exchange.Client
/-!
# What a client is called for

An `Errand` is a call on a client. What it asks of the server, and what it makes of the answers, is its
`Plan`: a request, and for each answer what comes next. A plan looks at the metadata that is known and
at nothing else of the client, so a call is its plan carried out (`run_eq_carryOut`).
-/
namespace FrameFeed.Client

variable {σ : Type} [Channel σ]

inductive Errand where
  | metadata
  | refresh
  | next
  | execute (action : String)
  | send (body : Json.Members)
  | request (q : Request)
deriving DecidableEq, Repr

/-- What a call returns. -/
inductive Outcome where
  | metadata (r : Except FrameError Metadata)
  | done (r : Except FrameError Unit)
  | reply (r : Except FrameError Reply)

/-- The error that a call returns. -/
def Outcome.error? : Outcome → Option FrameError
  | metadata (.error e) | done (.error e) | reply (.error e) => some e
  | _ => none

/-- Calls a client. -/
def run (k : Errand) (c : Client σ) : Outcome × Client σ :=
  match k with
  | .metadata => let (r, c) := c.known; (.metadata r, c)
  | .refresh => let (r, c) := c.refresh; (.metadata r, c)
  | .next => let (r, c) := c.next; (.done r, c)
  | .execute a => let (r, c) := c.execute a; (.done r, c)
  | .send body => let (r, c) := c.send body; (.done r, c)
  | .request q => let (r, c) := c.request q; (.reply r, c)

/-- The client after calls, one after the other. -/
def runAll (ks : List Errand) (c : Client σ) : Client σ := ks.foldl (fun c k => (c.run k).2) c

/-! ## Plans -/

inductive Plan where
  /-- The call returns; this is known afterwards, and this is the current frame. -/
  | done (o : Outcome) (metadata : Option Metadata) (frame : Option Bytes)
  | ask (q : Request) (go : Except FrameError Reply → Plan)

/-- Carries out a plan. -/
def carryOut : Plan → Client σ → Outcome × Client σ
  | .done o metadata frame, c => (o, { c with metadata, frame })
  | .ask q go, c => carryOut (go (c.request q).1) (c.request q).2

/-- The metadata that an answer describes. -/
def described : Except FrameError Reply → Except FrameError Metadata
  | .error e => .error e
  | .ok (.binary _) => .error (unexpected "binary" .metadata)
  | .ok (.json v) =>
    match Metadata.ofJson v with
    | .error e => .error (.faulted ("unreadable metadata: " ++ e.message))
    | .ok m =>
      match m.checkedSize with
      | none => .error (.formatUnsupported (m.text ++ " does not fit in memory"))
      | some _ => .ok m

/-- The bytes that an answer holds. -/
def framed : Except FrameError Reply → Except FrameError Bytes
  | .error e => .error e
  | .ok (.json _) => .error (unexpected "json" .frame)
  | .ok (.binary data) => .ok data

/-- Whether an action was done. -/
def executed : Except FrameError Reply → Except FrameError Unit
  | .error e => .error e
  | .ok (.binary _) => .error (unexpected "binary" .execute)
  | .ok (.json _) => .ok ()

/-- Whether a result went out. -/
def accepted : Except FrameError Reply → Except FrameError Unit
  | .ok _ => .ok ()
  | .error e => if isReply e then .ok () else .error e

namespace Plan

/-- Asks for the metadata. -/
def refresh (known : Option Metadata) (go : Except FrameError Metadata → Option Metadata → Plan) : Plan :=
  .ask .metadata fun a =>
    match described a with
    | .error e => go (.error e) known
    | .ok m => go (.ok m) (some m)

/-- Asks for the metadata unless it is known. -/
def metadata (known : Option Metadata) (go : Except FrameError Metadata → Option Metadata → Plan) : Plan :=
  match known with
  | some m => go (.ok m) known
  | none => refresh known go

/-- Asks for a frame of this size, and for the metadata again if another one comes. -/
def frame (expected : Metadata) (known : Option Metadata) : Plan :=
  .ask .frame fun a =>
    match framed a with
    | .error e => .done (.done (.error e)) known none
    | .ok data =>
      if data.length = expected.size then .done (.done (.ok ())) known (some data)
      else
        refresh known fun r known =>
          match r with
          | .error e => .done (.done (.error e)) known none
          | .ok m =>
            if data.length = m.size then .done (.done (.ok ())) known (some data)
            else
              .done (.done (.error (.faulted (s!"frame has {data.length} bytes, metadata " ++ m.text ++
                s!" needs {m.size}")))) known none

/-- The plan of a call, given the metadata that is known and the current frame. -/
def of (k : Errand) (known : Option Metadata) (current : Option Bytes) : Plan :=
  match k with
  | .metadata => metadata known fun r known => .done (.metadata r) known current
  | .refresh => refresh known fun r known => .done (.metadata r) known current
  | .next => metadata known fun r known =>
    match r with
    | .error e => .done (.done (.error e)) known none
    | .ok expected => frame expected known
  | .execute a => .ask (.execute a) fun r => .done (.done (executed r)) known current
  | .send body => .ask (.result body) fun r => .done (.done (accepted r)) known current
  | .request q => .ask q fun r => .done (.reply r) known current

end Plan

/-! ## A call is its plan carried out -/

/-- The client, were this known and this the current frame. -/
def holding (known : Option Metadata) (current : Option Bytes) (c : Client σ) : Client σ :=
  { c with metadata := known, frame := current }

section
variable (c : Client σ) (q : Request) (t : RequestType) (known : Option Metadata) (current : Option Bytes)

/-! What is known and the current frame are nothing to a request. -/

theorem collect_holding :
    (c.holding known current).collect = (c.collect.1, c.collect.2.holding known current) := by
  simp only [collect, holding]
  cases Channel.receive c.channel with
  | mk r channel =>
    cases r with
    | ok m => rfl
    | error e =>
      dsimp only
      split <;> rfl

theorem ask_holding :
    (c.holding known current).ask t q = ((c.ask t q).1, (c.ask t q).2.holding known current) := by
  simp only [ask, holding]
  cases Channel.send q.toMessage c.channel with
  | mk r channel =>
    cases r with
    | error e => rfl
    | ok u =>
      have hcollect := collect_holding { c with channel := channel, owed := some t } known current
      simp only [holding] at hcollect
      simp only [hcollect]
      rcases collect { c with channel := channel, owed := some t } with ⟨_ | _, c'⟩ <;> rfl

theorem request_holding :
    (c.holding known current).request q =
      ((c.request q).1, (c.request q).2.holding known current) := by
  have hcollect := collect_holding c known current
  obtain ⟨endpoint, channel, metadata, frame, owed, failure⟩ := c
  simp only [holding] at hcollect
  simp only [request, holding, hcollect]
  cases failure with
  | some reason => rfl
  | none =>
    cases q.type with
    | error e => rfl
    | ok t =>
      cases owed with
      | none => exact ask_holding (⟨endpoint, channel, metadata, frame, none, none⟩ : Client σ) ..
      | some owed =>
        rcases collect ⟨endpoint, channel, metadata, frame, some owed, none⟩ with ⟨_ | late, c'⟩
        · rfl
        · dsimp only
          by_cases hframe : owed = .frame ∧ t = .frame
          · simp only [if_pos hframe]
          · simp only [if_neg hframe]
            exact ask_holding { c' with owed := none } ..

theorem request_keep : (c.request q).2.metadata = c.metadata ∧ (c.request q).2.frame = c.frame := by
  have h : c.request q = ((c.request q).1, (c.request q).2.holding c.metadata c.frame) :=
    request_holding c q c.metadata c.frame
  rw [h]; exact ⟨rfl, rfl⟩

theorem carryOut_holding (p : Plan) :
    carryOut p (c.holding known current) = carryOut p c := by
  induction p generalizing c with
  | done o m f => rfl
  | ask q go ih => rw [carryOut, carryOut, request_holding]; exact ih _ _

theorem refresh_eq :
    c.refresh = match described (c.request .metadata).1 with
      | .error e => (.error e, (c.request .metadata).2)
      | .ok m => (.ok m, { (c.request .metadata).2 with metadata := some m }) := by
  unfold refresh
  rcases c.request .metadata with ⟨_ | _ | _, c'⟩
  · rfl
  · dsimp only [described]
    cases Metadata.ofJson _ with
    | error e => rfl
    | ok m =>
      dsimp only
      cases m.checkedSize <;> rfl
  · rfl

theorem carryOut_refresh (go : Except FrameError Metadata → Option Metadata → Plan) :
    carryOut (.refresh c.metadata go) c = carryOut (go c.refresh.1 c.refresh.2.metadata) c.refresh.2 := by
  obtain ⟨hm, hf⟩ := request_keep c .metadata
  rw [Plan.refresh, carryOut, refresh_eq]
  cases described (c.request .metadata).1 with
  | error e => rw [hm]
  | ok m => exact (carryOut_holding _ (some m) _ _).symm

theorem carryOut_metadata (go : Except FrameError Metadata → Option Metadata → Plan) :
    carryOut (.metadata c.metadata go) c = carryOut (go c.known.1 c.known.2.metadata) c.known.2 := by
  unfold known
  cases hm : c.metadata with
  | some m =>
    show carryOut (go (.ok m) (some m)) c = carryOut (go (.ok m) c.metadata) c
    rw [hm]
  | none =>
    have := carryOut_refresh c go
    rwa [hm] at this

theorem frame_refresh : c.refresh.2.frame = c.frame := by
  rw [refresh_eq]
  split <;> exact (request_keep c .metadata).2

theorem frame_known : c.known.2.frame = c.frame := by
  unfold known
  split
  · rfl
  · exact frame_refresh c


theorem carryOut_frame (expected : Metadata) (hf : c.frame = none) :
    carryOut (.frame expected c.metadata) c =
      match framed (c.request .frame).1 with
      | .error e => (.done (.error e), (c.request .frame).2)
      | .ok data =>
        if data.length = expected.size then
          (.done (.ok ()), { (c.request .frame).2 with frame := some data })
        else
          match (c.request .frame).2.refresh with
          | (.error e, c) => (.done (.error e), c)
          | (.ok m, c) =>
            if data.length = m.size then (.done (.ok ()), { c with frame := some data })
            else
              (.done (.error (.faulted
                (s!"frame has {data.length} bytes, metadata " ++ m.text ++ s!" needs {m.size}"))), c) := by
  obtain ⟨hm, hf'⟩ := request_keep c .frame
  rw [Plan.frame, carryOut, ← hm]
  rw [hf] at hf'
  generalize (c.request .frame).2 = c' at hf' ⊢
  cases framed (c.request .frame).1 with
  | error e =>
    dsimp only
    rw [carryOut, ← hf']
  | ok data =>
    dsimp only
    split
    · rfl
    · have hf'' := (frame_refresh c').trans hf'
      rw [carryOut_refresh]
      generalize c'.refresh = p at hf'' ⊢
      obtain ⟨r, c''⟩ := p
      cases r with
      | error e =>
        dsimp only at hf'' ⊢
        rw [carryOut, ← hf'']
      | ok m =>
        dsimp only at hf'' ⊢
        split
        · rfl
        · rw [carryOut, ← hf'']

/-- **A call is its plan carried out.** -/
theorem run_eq_carryOut (k : Errand) : c.run k = carryOut (.of k c.metadata c.frame) c := by
  cases k with
  | metadata =>
    rw [Plan.of, carryOut_metadata, carryOut, ← frame_known c]; rfl
  | refresh =>
    rw [Plan.of, carryOut_refresh, carryOut, ← frame_refresh c]; rfl
  | next =>
    have hf : ({ c with frame := none } : Client σ).known.2.frame = none := frame_known _
    have hkeep : carryOut (.of .next c.metadata c.frame) c =
        carryOut (.of .next c.metadata c.frame) { c with frame := none } :=
      (carryOut_holding c c.metadata none _).symm
    rw [hkeep, Plan.of]
    refine Eq.trans ?_ (carryOut_metadata ({ c with frame := none } : Client σ) _).symm
    rw [run, next]
    generalize ({ c with frame := none } : Client σ).known = p at hf ⊢
    obtain ⟨r, c₁⟩ := p
    cases r with
    | error e =>
      dsimp only at hf ⊢
      rw [carryOut, ← hf]
    | ok expected =>
      dsimp only at hf ⊢
      rw [carryOut_frame c₁ expected hf]
      rcases c₁.request .frame with ⟨_ | _ | data, c₂⟩
      · rfl
      · rfl
      · dsimp only [framed]
        split
        · rfl
        · rcases c₂.refresh with ⟨_ | m, c₃⟩
          · rfl
          · dsimp only
            split <;> rfl
  | execute a =>
    obtain ⟨hm, hf⟩ := request_keep c (.execute a)
    rw [Plan.of, carryOut, carryOut, ← hm, ← hf, run, execute]
    rcases c.request (.execute a) with ⟨_ | _ | _, c'⟩ <;> rfl
  | send body =>
    obtain ⟨hm, hf⟩ := request_keep c (.result body)
    rw [Plan.of, carryOut, carryOut, ← hm, ← hf, run, send]
    rcases c.request (.result body) with ⟨e | _, c'⟩
    · dsimp only [accepted]
      split <;> rfl
    · rfl
  | request q =>
    obtain ⟨hm, hf⟩ := request_keep c q
    rw [Plan.of, carryOut, carryOut, ← hm, ← hf]; rfl
end

end FrameFeed.Client
