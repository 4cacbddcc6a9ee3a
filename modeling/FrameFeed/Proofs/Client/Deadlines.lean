import FrameFeed.Proofs.Client.Lockstep
import FrameFeed.Proofs.Client.Views
import FrameFeed.Proofs.Wire.Reception
/-!
# Frames and deadlines

A client calls for one frame after the other, the server answers every request (`Serves`), and deadlines
pass wherever they like (`Calm`). A frame that is late answers the next call. But a frame that was read and is
not of the size that was known stays with its call, which asks for the metadata again: if a deadline passes
then, the frame is lost. Apart from that, the calls show the frames in order and each of them once
(`fates_in_order`).
-/
namespace FrameFeed

/-! ## A connection on which nothing but deadlines goes wrong -/

/-- A read brings bytes, or it is made again, or a deadline passes. -/
def Arrival.Calm : Arrival → Prop
  | .data b => b ≠ []
  | .failed e => e.kind = .interrupted ∨ e.isTimeout = true

instance : DecidablePred Arrival.Calm
  | .data b => inferInstanceAs (Decidable (b ≠ []))
  | .failed e => inferInstanceAs (Decidable (e.kind = .interrupted ∨ e.isTimeout = true))

namespace Connection

section
variable {limit : Nat} {b : Bytes} {sp : Space} {as : List Arrival} {late : IoError}

theorem collect_calm (hcalm : ∀ a ∈ as, a.Calm) (hlate : late.isTimeout = true) :
    (∃ m, (collect limit (some late) b sp as).1 = .ok m) ∨
    (∃ e, (collect limit (some late) b sp as).1 = .error e ∧ e.isTimeout = true) ∨
    ∃ e, Message.decode limit (b ++ Stream.content as) = .error e := by
  fun_induction collect limit (some late) b sp as with
  | case1 _ _ _ e hd => exact .inr (.inr ⟨e, Message.decode_append_of_error hd _⟩)
  | case2 _ _ _ m => exact .inl ⟨m, rfl⟩
  | case3 _ _ _ _ he => cases he
  | case4 _ _ _ _ e he => cases he; exact .inr (.inl ⟨_, rfl, hlate⟩)
  | case5 _ _ _ _ _ _ _ ih => exact ih fun a ha => hcalm a (.tail _ ha)
  | case6 _ _ _ _ e _ hi =>
    rcases hcalm _ (.head _) with hi' | he
    · exact absurd hi' hi
    · exact .inr (.inl ⟨_, rfl, he⟩)
  | case7 => exact absurd rfl (hcalm _ (.head _))
  | case8 _ _ _ _ _ _ _ _ _ ih =>
    have := ih fun a ha => hcalm a (.tail _ ha)
    rwa [List.append_assoc] at this
  | case9 _ _ _ _ c d as room hroom ih =>
    have hcalm' : ∀ a ∈ Arrival.data ((c :: d).drop room) :: as, a.Calm := by
      intro a ha
      rcases List.mem_cons.1 ha with rfl | ha
      · exact drop_ne_nil (Nat.not_le.1 hroom)
      · exact hcalm a (.tail _ ha)
    have := ih hcalm'
    rwa [Stream.content, List.append_assoc, ← List.append_assoc (List.take _ _), List.take_append_drop]
      at this

end

/-- What is written is taken, what comes can be read, and no read fails but by a deadline. -/
structure Calm (c : Connection) : Prop where
  writable : c.stream.Writable
  arrivals : ∀ a ∈ c.stream.arrivals, a.Calm
  ending : ∃ late, c.stream.ending = some late ∧ late.isTimeout = true
  readable : (Message.decodeAll c.limit c.pending).2.2 = none

variable {c : Connection} {m : Message}

theorem Calm.receive (h : c.Calm) :
    ((∃ m, c.receive.1 = .ok m) ∨ ∃ e, c.receive.1 = .error e ∧ e.isTimeout = true) ∧ c.receive.2.Calm := by
  have hreadable : (Message.decodeAll c.limit c.receive.2.pending).2.2 = none := by
    have hread := h.readable
    cases hr : c.receive.1 with
    | ok m => rwa [Message.decodeAll_of_some (decode_pending_of_receive hr)] at hread
    | error e => rwa [pending_of_receive_error hr]
  refine ⟨?_, writable_receive h.writable, ?_, h.ending, hreadable⟩
  · obtain ⟨late, hending, hlate⟩ := h.ending
    have hcollect := @collect_calm c.limit c.buffer c.space _ _ h.arrivals hlate
    rw [← hending] at hcollect
    rcases hcollect with hok | htimeout | ⟨e, hflaw⟩
    · exact .inl hok
    · exact .inr htimeout
    · have hread := h.readable
      rw [pending, Message.decodeAll_of_error hflaw] at hread
      cases hread
  · exact collect_arrivals (fun b n hn _ => drop_ne_nil hn) h.arrivals

theorem Calm.send (h : c.Calm) (hm : m.Fits c.limit) : (c.send m).1 = .ok () ∧ (c.send m).2.Calm := by
  obtain ⟨hlimit, -, harrivals, hending⟩ := send_sides m c
  obtain ⟨hok, hwritable⟩ := send_of_writable h.writable hm
  refine ⟨hok, hwritable, ?_, ?_, ?_⟩
  · rw [harrivals]; exact h.arrivals
  · rw [hending]; exact h.ending
  · rw [hlimit, pending_send]; exact h.readable

end Connection

namespace Client

open Connection (written Read Wrote)

/-! ## A server that answers every request -/

/-- These requests are answered by these replies, after `k` frames: a request for a frame by the next one, a
request for the metadata by those of the frame that was sent last. -/
def Serves (f : Nat → View) : Nat → List Message → List Message → Prop
  | k, q :: qs, m :: ms =>
    if q = Request.frame.toMessage then m = ⟨.binary, (f k).data⟩ ∧ Serves f (k + 1) qs ms
    else (q = Request.metadata.toMessage →
        ∀ j, k = j + 1 → described (Reply.ofMessage m) = .ok (f j).metadata) ∧ Serves f k qs ms
  | _, [], _ | _, _, [] => True

/-- The request whose reply is owed. -/
def due (c : Client Connection) : List Message :=
  c.owed.toList.map fun t => Request.toMessage ⟨t.name, none⟩

/-- After `k` frames, the replies that are still to be read answer the request whose reply is owed and those
that are still to be written. -/
def Served (f : Nat → View) (k : Nat) (rest : List Message) (c : Client Connection) : Prop :=
  Serves f k (c.due ++ rest) c.channel.inbound

theorem metadata_ne_frame : Request.metadata.toMessage ≠ Request.frame.toMessage := by decide +kernel

section
variable {f : Nat → View} {k : Nat} {qs ms : List Message} {q m : Message}

theorem Serves.frame (h : Serves f k (Request.frame.toMessage :: qs) (m :: ms)) :
    m = ⟨.binary, (f k).data⟩ ∧ Serves f (k + 1) qs ms := by
  rwa [Serves, if_pos rfl] at h

theorem Serves.skip (h : Serves f k (q :: qs) (m :: ms)) (hq : q ≠ Request.frame.toMessage) :
    Serves f k qs ms := by
  rw [Serves, if_neg hq] at h
  exact h.2

theorem Serves.metadata (h : Serves f k (Request.metadata.toMessage :: qs) (m :: ms)) :
    (∀ j, k = j + 1 → described (Reply.ofMessage m) = .ok (f j).metadata) ∧ Serves f k qs ms := by
  rw [Serves, if_neg metadata_ne_frame] at h
  exact ⟨h.1 rfl, h.2⟩

theorem ofType_ne_frame {t : RequestType} (ht : t ≠ .frame) :
    Request.toMessage ⟨t.name, none⟩ ≠ Request.frame.toMessage := by
  revert ht
  cases t <;> decide +kernel

end

/-! ## One request -/

/-- The client can call for a frame: it is not written off, the metadata are known, nothing but deadlines goes
wrong, and the requests fit. -/
structure Ready (c : Client Connection) : Prop where
  failure : c.failure = none
  known : c.metadata.isSome
  calm : c.channel.Calm
  metadata : Request.metadata.toMessage.Fits c.channel.limit
  frame : Request.frame.toMessage.Fits c.channel.limit

section
variable {c : Client Connection} {q : Request} {t : RequestType}

theorem Ready.on {ch : Connection} {ms : List Message} (h : c.Ready) (hcalm : ch.Calm)
    (hread : Read c.channel ms ch) (owed : Option RequestType) :
    Ready { c with channel := ch, owed } := by
  refine ⟨h.failure, h.known, hcalm, ?_, ?_⟩
  · show Message.Fits ch.limit _
    rw [hread.limit]; exact h.metadata
  · show Message.Fits ch.limit _
    rw [hread.limit]; exact h.frame

theorem Ready.collect (h : c.Ready) : ∃ ch, ch.Calm ∧ ch.stream.sent = c.channel.stream.sent ∧
    ((∃ m, Read c.channel [m] ch ∧ c.collect = (.ok m, { c with channel := ch })) ∨
      Read c.channel [] ch ∧ c.collect = (.error .timeout, { c with channel := ch })) := by
  obtain ⟨hreceive, hcalm⟩ := h.calm.receive
  refine ⟨c.channel.receive.2, hcalm, rfl, ?_⟩
  rcases collect_cases c with hok | ⟨hr, ⟨-, hc⟩ | ⟨⟨e, he, hfailed⟩, -⟩⟩
  · exact .inl hok
  · exact .inr ⟨hr, hc⟩
  · rcases hreceive with ⟨m, hm⟩ | ⟨e', he', htimeout⟩
    · rw [hm] at he; cases he
    · rw [he'] at he; cases he
      rw [hfailed] at htimeout; cases htimeout

theorem Ready.ask (h : c.Ready) (hq : q.toMessage.Fits c.channel.limit) :
    ∃ ch, ch.Calm ∧ Wrote c.channel [q.toMessage] ch ∧
      ((∃ m, Read c.channel [m] ch ∧
          c.ask t q = (Reply.ofMessage m, { c with channel := ch, owed := none })) ∨
        Read c.channel [] ch ∧ c.ask t q = (.error .timeout, { c with channel := ch, owed := some t })) := by
  obtain ⟨hok, hcalm⟩ := h.calm.send hq
  have hsend : Channel.send q.toMessage c.channel = (.ok (), (c.channel.send q.toMessage).2) :=
    Prod.ext hok rfl
  have hread := Connection.read_of_send q.toMessage c.channel
  obtain ⟨w, hw, hsent⟩ := Connection.wrote_of_send hok
  obtain ⟨ch, hcalm', hsent', hcollect⟩ := (h.on hcalm hread (some t)).collect
  refine ⟨ch, hcalm', ⟨w, hw, hsent'.trans hsent⟩, ?_⟩
  rw [Client.ask, hsend]
  rcases hcollect with ⟨m, hm, hc⟩ | ⟨hm, hc⟩
  · exact .inl ⟨m, hread.trans hm, by simp only [hc]⟩
  · exact .inr ⟨hread.trans hm, by simp only [hc]⟩

/-- A request for a frame that is written when nothing is owed. -/
theorem Ready.ask_frame (h : c.Ready) (ho : c.owed = none) (f : Nat → View) :
    (c.ask .frame .frame).2.Ready ∧
      ((c.ask .frame .frame).1 = .error .timeout ∨ (c.ask .frame .frame).2.owed = none) ∧
      Wrote c.channel [Request.frame.toMessage] (c.ask .frame .frame).2.channel ∧
      ∀ k rest, Served f k (Request.frame.toMessage :: rest) c →
        (c.ask .frame .frame).1 = .error .timeout ∧ Served f k rest (c.ask .frame .frame).2 ∨
        (c.ask .frame .frame).1 = .ok (.binary (f k).data) ∧
          Served f (k + 1) rest (c.ask .frame .frame).2 := by
  obtain ⟨ch, hcalm, hwrote, ⟨m, hread, hask⟩ | ⟨hread, hask⟩⟩ := @Ready.ask c .frame .frame h h.frame
  · rw [hask]
    refine ⟨h.on hcalm hread none, .inr rfl, hwrote, fun k rest hserved => .inr ?_⟩
    simp only [Served, due, ho, Option.toList_none, List.map_nil, List.nil_append] at hserved ⊢
    rw [hread.inbound, List.singleton_append] at hserved
    obtain ⟨rfl, hrest⟩ := hserved.frame
    exact ⟨rfl, hrest⟩
  · rw [hask]
    refine ⟨h.on hcalm hread (some .frame), .inl rfl, hwrote, fun k rest hserved => .inl ⟨rfl, ?_⟩⟩
    simp only [Served, due, ho, Option.toList_none, List.map_nil, List.nil_append] at hserved
    rw [hread.inbound] at hserved
    exact hserved

/-- A request for the metadata when nothing is owed. -/
theorem Ready.request_metadata (h : c.Ready) (ho : c.owed = none) (f : Nat → View) :
    (c.request .metadata).2.Ready ∧
      Wrote c.channel [Request.metadata.toMessage] (c.request .metadata).2.channel ∧
      ∀ k rest, Served f k (Request.metadata.toMessage :: rest) c →
        Served f k rest (c.request .metadata).2 ∧ ((c.request .metadata).1 = .error .timeout ∨
          ∀ j, k = j + 1 → described (c.request .metadata).1 = .ok (f j).metadata) := by
  have hrequest : c.request .metadata = c.ask .metadata .metadata := by
    rw [request, h.failure, ho]; rfl
  obtain ⟨ch, hcalm, hwrote, ⟨m, hread, hask⟩ | ⟨hread, hask⟩⟩ := @Ready.ask c .metadata .metadata h h.metadata
  · rw [hrequest, hask]
    refine ⟨h.on hcalm hread none, hwrote, fun k rest hserved => ?_⟩
    simp only [Served, due, ho, Option.toList_none, List.map_nil, List.nil_append] at hserved ⊢
    rw [hread.inbound, List.singleton_append] at hserved
    exact ⟨hserved.metadata.2, .inr hserved.metadata.1⟩
  · rw [hrequest, hask]
    refine ⟨h.on hcalm hread (some .metadata), hwrote, fun k rest hserved => ⟨?_, .inl rfl⟩⟩
    simp only [Served, due, ho, Option.toList_none, List.map_nil, List.nil_append] at hserved
    rw [hread.inbound] at hserved
    exact hserved

/-- A request for a frame, whatever is owed. -/
theorem Ready.request_frame (h : c.Ready) (f : Nat → View) :
    (c.request .frame).2.Ready ∧
      ((c.request .frame).1 = .error .timeout ∨ (c.request .frame).2.owed = none) ∧
      ∃ ws, Wrote c.channel ws (c.request .frame).2.channel ∧ Request.metadata.toMessage ∉ ws ∧
        ∀ k rest, Served f k (ws ++ rest) c →
          (c.request .frame).1 = .error .timeout ∧ Served f k rest (c.request .frame).2 ∨
          (c.request .frame).1 = .ok (.binary (f k).data) ∧ Served f (k + 1) rest (c.request .frame).2 := by
  have htype : Request.type .frame = .ok .frame := rfl
  have hother : Request.metadata.toMessage ∉ [Request.frame.toMessage] := by
    rw [List.mem_singleton]; exact metadata_ne_frame
  unfold request
  rw [h.failure, htype]
  dsimp only
  cases ho : c.owed with
  | none =>
    obtain ⟨hready, howed, hwrote, hserves⟩ := h.ask_frame ho f
    exact ⟨hready, howed, _, hwrote, hother, hserves⟩
  | some t =>
    have hdue : ∀ k rest, Served f k rest c →
        Serves f k (Request.toMessage ⟨t.name, none⟩ :: rest) c.channel.inbound := by
      intro k rest hserved
      simpa [Served, due, ho] using hserved
    obtain ⟨ch, hcalm, hsent, ⟨m, hread, hcollect⟩ | ⟨hread, hcollect⟩⟩ := h.collect
    · rw [hcollect]
      dsimp only
      by_cases ht : t = .frame
      · subst ht
        rw [if_pos ⟨rfl, rfl⟩]
        refine ⟨h.on hcalm hread none, .inr rfl, [], ⟨[], rfl, by simpa using hsent⟩, by simp,
          fun k rest hserved => .inr ?_⟩
        have hserves := hdue k _ hserved
        rw [hread.inbound, List.singleton_append] at hserves
        obtain ⟨rfl, hrest⟩ := Serves.frame hserves
        exact ⟨rfl, hrest⟩
      · -- what was owed is no frame: it is dropped, and nothing is lost by that
        rw [if_neg fun hboth => ht hboth.1]
        obtain ⟨hready, howed, ⟨w, hw, hsent'⟩, hserves⟩ := (h.on hcalm hread none).ask_frame rfl f
        refine ⟨hready, howed, _, ⟨w, hw, by rw [hsent', hsent]⟩, hother, fun k rest hserved => hserves k rest ?_⟩
        have hskip := hdue k _ hserved
        rw [hread.inbound, List.singleton_append] at hskip
        exact hskip.skip (ofType_ne_frame ht)
    · rw [hcollect]
      refine ⟨?_, .inl rfl, [], ⟨[], rfl, by simpa using hsent⟩, by simp,
        fun k rest hserved => .inl ⟨rfl, ?_⟩⟩
      · have hready := h.on hcalm hread c.owed
        exact hready
      · have hserves := hdue k _ hserved
        rw [hread.inbound] at hserves
        simpa [Served, due, ho] using hserves

end

/-! ## One call for the next frame -/

/-- What becomes of a frame. -/
inductive Fate where
  /-- The call makes it the current one. -/
  | shown (data : Bytes)
  /-- It was read, and the call ends without it. -/
  | lost
  /-- It is still to be read. -/
  | awaited
deriving DecidableEq, Repr

/-- The frame that is shown. -/
def Fate.data? : Fate → Option Bytes
  | shown data => some data
  | _ => none

/-- What becomes of the frame that a call is for. A call that has none asks for the metadata only if it read
a frame that is not of the size that was known. -/
def fate (c : Client Connection) : Fate :=
  match c.next.2.frame with
  | some data => .shown data
  | none =>
    if Request.metadata.toMessage ∈ written c.channel c.next.2.channel then .lost else .awaited

/-- The bytes of each frame are as many as its metadata say. -/
def Sized (f : Nat → View) : Prop := ∀ k, (f k).metadata.checkedSize = some (f k).data.length

section
variable {c : Client Connection} {f : Nat → View}

/-- How a call for the next frame goes when the metadata are known. -/
theorem next_of_some {known : Metadata} (hknown : c.metadata = some known) :
    let r := ({ c with frame := none } : Client Connection).request .frame
    (∃ e, framed r.1 = .error e ∧ c.next = (.error e, r.2)) ∨
    ∃ data, framed r.1 = .ok data ∧
      (data.length = known.size ∧ c.next = (.ok (), { r.2 with frame := some data }) ∨
      data.length ≠ known.size ∧
        ((∃ e, r.2.refresh.1 = .error e ∧ c.next = (.error e, r.2.refresh.2)) ∨
        ∃ m, r.2.refresh.1 = .ok m ∧
          (data.length = m.size ∧ c.next = (.ok (), { r.2.refresh.2 with frame := some data }) ∨
          data.length ≠ m.size ∧ ∃ e, c.next = (.error e, r.2.refresh.2)))) := by
  intro r
  have hr : ({ c with frame := none } : Client Connection).request .frame = r := rfl
  rw [next, known_of_some (c := { c with frame := none }) hknown]
  dsimp only
  rw [hr]
  obtain ⟨a, c'⟩ := r
  rcases a with e | _ | data
  · exact .inl ⟨e, rfl, rfl⟩
  · exact .inl ⟨_, rfl, rfl⟩
  · refine .inr ⟨data, rfl, ?_⟩
    dsimp only
    by_cases hsize : data.length = known.size
    · rw [if_pos hsize]
      exact .inl ⟨hsize, rfl⟩
    · rw [if_neg hsize]
      refine .inr ⟨hsize, ?_⟩
      rcases c'.refresh with ⟨e | m, c''⟩
      · exact .inl ⟨e, rfl, rfl⟩
      · refine .inr ⟨m, rfl, ?_⟩
        dsimp only
        by_cases hsize' : data.length = m.size
        · rw [if_pos hsize']
          exact .inl ⟨hsize', rfl⟩
        · rw [if_neg hsize']
          exact .inr ⟨hsize', _, rfl⟩

theorem Ready.showing (h : c.Ready) {known : Option Metadata} (hknown : known.isSome)
    (frame : Option Bytes) : Ready { c with metadata := known, frame } :=
  ⟨h.failure, hknown, h.calm, h.metadata, h.frame⟩

theorem fate_of_frame {data : Bytes} (h : c.next.2.frame = some data) : c.fate = .shown data := by
  rw [fate, h]

theorem fate_of_none {ws : List Message} (h : c.next.2.frame = none)
    (hwrote : Wrote c.channel ws c.next.2.channel) :
    c.fate = if Request.metadata.toMessage ∈ ws then .lost else .awaited := by
  rw [fate, h, hwrote.written]

/-- The metadata that are asked for again are those of the frame that was sent last. -/
theorem Ready.refresh (h : c.Ready) (ho : c.owed = none) (f : Nat → View) :
    c.refresh.2.Ready ∧ c.refresh.2.frame = c.frame ∧
      Wrote c.channel [Request.metadata.toMessage] c.refresh.2.channel ∧
      ∀ k rest, Served f k (Request.metadata.toMessage :: rest) c →
        Served f k rest c.refresh.2 ∧ (c.refresh.1 = .error .timeout ∨
          ∀ j, k = j + 1 → c.refresh.1 = .ok (f j).metadata) := by
  obtain ⟨hready, hwrote, hserved⟩ := h.request_metadata ho f
  refine ⟨?_, frame_refresh c, ?_, fun k rest hrest => ?_⟩
  · rw [refresh_eq]
    split
    · exact hready
    · exact hready.showing rfl _
  · rw [refresh_eq]
    split <;> exact hwrote
  · obtain ⟨hserved, hanswer⟩ := hserved k rest hrest
    rw [refresh_eq]
    refine ⟨?_, ?_⟩
    · split <;> exact hserved
    · rcases hanswer with htimeout | hmetadata
      · rw [htimeout]; exact .inl rfl
      · refine .inr fun j hj => ?_
        rw [hmetadata j hj]

theorem Sized.length (hf : Sized f) (k : Nat) : (f k).data.length = (f k).metadata.size := by
  rw [Metadata.size, hf k]; rfl

/-- A call for the next frame shows the frame whose turn it is, or a deadline passes, and the frame is lost or
still to come. -/
def Advances (f : Nat → View) (c : Client Connection) : Prop :=
  c.next.2.Ready ∧ ∃ ws, Wrote c.channel ws c.next.2.channel ∧
    ∀ k rest, Served f k (ws ++ rest) c →
      c.next.1 = .ok () ∧ c.fate = .shown (f k).data ∧ Served f (k + 1) rest c.next.2 ∨
      c.next.1 = .error .timeout ∧ (c.fate = .lost ∧ Served f (k + 1) rest c.next.2 ∨
        c.fate = .awaited ∧ Served f k rest c.next.2)

/-- A frame of another size than was known: the metadata are asked for again. -/
theorem Ready.advances_of_other_size (h : c.Ready) (hf : Sized f) {known : Metadata} {data : Bytes}
    (hknown : c.metadata = some known)
    (ha : framed (({ c with frame := none } : Client Connection).request .frame).1 = .ok data)
    (hsize : data.length ≠ known.size) : Advances f c := by
  have hbare : Ready { c with frame := none } := h.showing h.known none
  obtain ⟨hready, howed, ws, hwrote, -, hserved⟩ := hbare.request_frame f
  have hframe : (({ c with frame := none } : Client Connection).request .frame).2.frame = none :=
    (request_keep ({ c with frame := none } : Client Connection) .frame).2
  have hnext := next_of_some hknown
  have hfate := @fate_of_none c
  unfold Advances
  dsimp only at hnext
  generalize ({ c with frame := none } : Client Connection).request .frame = r at *
  have howed' : r.2.owed = none := by
    rcases howed with htimeout | hnone
    · rw [htimeout] at ha; cases ha
    · exact hnone
  obtain ⟨hready', hframe', hwrote', hserved'⟩ := hready.refresh howed' f
  rw [hframe] at hframe'
  have hasked : Request.metadata.toMessage ∈ ws ++ [Request.metadata.toMessage] := by simp
  have hserved : ∀ k rest, Served f k (ws ++ [Request.metadata.toMessage] ++ rest) c →
      data = (f k).data ∧ Served f (k + 1) rest r.2.refresh.2 ∧
        (r.2.refresh.1 = .error .timeout ∨ r.2.refresh.1 = .ok (f k).metadata) := by
    intro k rest hk
    rw [List.append_assoc] at hk
    rcases hserved k _ hk with ⟨htimeout, -⟩ | ⟨hok, hrest⟩
    · rw [htimeout] at ha; cases ha
    · rw [hok] at ha; cases ha
      obtain ⟨hrest, hanswer⟩ := hserved' (k + 1) rest hrest
      exact ⟨rfl, hrest, hanswer.imp_right fun hmetadata => hmetadata k rfl⟩
  rcases hnext with ⟨e, he, -⟩ | ⟨data', ha', hnext⟩
  · rw [ha] at he; cases he
  rw [ha] at ha'
  cases ha'
  rcases hnext with ⟨hsame, -⟩ | ⟨-, hnext⟩
  · exact absurd hsame hsize
  rcases hnext with ⟨e, he, hc⟩ | ⟨m, hm, ⟨hsize', hc⟩ | ⟨hsize', e, hc⟩⟩
  · -- no metadata came: the frame is lost
    rw [hc] at hfate ⊢
    refine ⟨hready', _, hwrote.trans hwrote', fun k rest hk => .inr ?_⟩
    obtain ⟨-, hrest, hanswer⟩ := hserved k rest hk
    rcases hanswer with htimeout | hmetadata
    · rw [htimeout] at he; cases he
      refine ⟨rfl, .inl ⟨?_, hrest⟩⟩
      rw [hfate hframe' (hwrote.trans hwrote'), if_pos hasked]
    · rw [hmetadata] at he; cases he
  · -- the frame is of their size
    rw [hc]
    refine ⟨hready'.showing hready'.known _, _, hwrote.trans hwrote', fun k rest hk => .inl ?_⟩
    obtain ⟨rfl, hrest, -⟩ := hserved k rest hk
    exact ⟨rfl, fate_of_frame (by rw [hc]), hrest⟩
  · -- the frame is not of their size, which cannot be
    rw [hc]
    refine ⟨hready', _, hwrote.trans hwrote', fun k rest hk => ?_⟩
    obtain ⟨rfl, -, hanswer⟩ := hserved k rest hk
    rcases hanswer with htimeout | hmetadata
    · rw [htimeout] at hm; cases hm
    · rw [hmetadata] at hm; cases hm
      exact absurd (hf.length k) hsize'

theorem Ready.advances (h : c.Ready) (hf : Sized f) : Advances f c := by
  obtain ⟨known, hknown⟩ := Option.isSome_iff_exists.1 h.known
  have hbare : Ready { c with frame := none } := h.showing h.known none
  obtain ⟨hready, -, ws, hwrote, hno, hserved⟩ := hbare.request_frame f
  have hframe : (({ c with frame := none } : Client Connection).request .frame).2.frame = none :=
    (request_keep ({ c with frame := none } : Client Connection) .frame).2
  have hnext := next_of_some hknown
  have hfate := @fate_of_none c
  have hother := fun data => @Ready.advances_of_other_size c f h hf known data hknown
  unfold Advances at hother ⊢
  dsimp only at hnext
  generalize ({ c with frame := none } : Client Connection).request .frame = r at *
  rcases hnext with ⟨e, ha, hc⟩ | ⟨data, ha, ⟨-, hc⟩ | ⟨hsize, -⟩⟩
  · -- no frame came
    rw [hc] at hfate ⊢
    refine ⟨hready, ws, hwrote, fun k rest hk => ?_⟩
    rcases hserved k rest hk with ⟨htimeout, hrest⟩ | ⟨hok, -⟩
    · rw [htimeout] at ha; cases ha
      refine .inr ⟨rfl, .inr ⟨?_, hrest⟩⟩
      rw [hfate hframe hwrote, if_neg hno]
    · rw [hok] at ha; cases ha
  · -- a frame of the size that was known
    rw [hc]
    refine ⟨hready.showing hready.known _, ws, hwrote, fun k rest hk => ?_⟩
    rcases hserved k rest hk with ⟨htimeout, -⟩ | ⟨hok, hrest⟩
    · rw [htimeout] at ha; cases ha
    · rw [hok] at ha; cases ha
      exact .inl ⟨rfl, fate_of_frame (by rw [hc]), hrest⟩
  · exact hother data ha hsize

end

/-! ## Calls one after the other -/

/-- What becomes of the frames that `n` calls are for. -/
def fates : Nat → Client Connection → List Fate
  | 0, _ => []
  | n + 1, c => c.fate :: fates n c.next.2

/-- The client after `n` calls for the next frame. -/
def nexts (n : Nat) (c : Client Connection) : Client Connection := runAll (.replicate n .next) c

/-- The frames that `n` calls make current. -/
def shown (n : Nat) (c : Client Connection) : List Bytes := (fates n c).filterMap Fate.data?

/-- These are the fates of frames in turn, the first of them the one after `k` frames. -/
def InTurn (f : Nat → View) : Nat → List Fate → Prop
  | _, [] => True
  | k, .shown data :: fs => data = (f k).data ∧ InTurn f (k + 1) fs
  | k, .lost :: fs => InTurn f (k + 1) fs
  | k, .awaited :: fs => InTurn f k fs

/-- A call that returns has shown a frame, and one that fails has met a deadline. -/
def Concludes (c : Client Connection) : Prop :=
  c.next.1 = .ok () ∧ (∃ data, c.fate = .shown data) ∨
    c.next.1 = .error .timeout ∧ (c.fate = .lost ∨ c.fate = .awaited)

section
variable {c : Client Connection} {f : Nat → View} {k : Nat}

theorem nexts_succ (n : Nat) (c : Client Connection) : nexts (n + 1) c = nexts n c.next.2 := by
  rw [nexts, List.replicate_succ]; rfl

/-- Where none is lost, the frames shown are those after the first `k`. -/
theorem InTurn.shown_eq {fs : List Fate} (h : InTurn f k fs) (hlost : .lost ∉ fs) :
    fs.filterMap Fate.data? =
      (List.range' k (fs.filterMap Fate.data?).length).map fun i => (f i).data := by
  induction fs generalizing k with
  | nil => rfl
  | cons fate fs ih =>
    simp only [List.mem_cons, not_or] at hlost
    cases fate with
    | shown data =>
      have htail := ih h.2 hlost.2
      rw [List.filterMap_cons_some (show Fate.data? (.shown data) = some data from rfl), List.length_cons,
        List.range'_succ, List.map_cons, ← htail, h.1]
    | lost => exact absurd rfl hlost.1
    | awaited =>
      rw [List.filterMap_cons_none (show Fate.data? .awaited = none from rfl)]
      exact ih h hlost.2

theorem Ready.nexts_wrote (h : c.Ready) (hf : Sized f) (n : Nat) :
    ∃ ws, Wrote c.channel ws (nexts n c).channel := by
  induction n generalizing c with
  | zero => exact ⟨[], .refl _⟩
  | succ n ih =>
    obtain ⟨hready, ws, hwrote, -⟩ := h.advances hf
    obtain ⟨ws', hwrote'⟩ := ih hready
    rw [nexts_succ]
    exact ⟨ws ++ ws', hwrote.trans hwrote'⟩

/-- One call after the other: each concludes, and the frames meet their fates in turn. -/
theorem Ready.nexts (h : c.Ready) (hf : Sized f) (n : Nat)
    (hserved : Served f k (written c.channel (nexts n c).channel) c) :
    (∀ i < n, (Client.nexts i c).Concludes) ∧ InTurn f k (fates n c) := by
  induction n generalizing c k with
  | zero => exact ⟨fun i hi => absurd hi (Nat.not_lt_zero i), trivial⟩
  | succ n ih =>
    obtain ⟨hready, ws, hwrote, hnext⟩ := h.advances hf
    obtain ⟨ws', hwrote'⟩ := hready.nexts_wrote hf n
    rw [nexts_succ, (hwrote.trans hwrote').written] at hserved
    have hrest := fun k => @ih c.next.2 k hready
    rw [hwrote'.written] at hrest
    have hconcludes : ∀ hcall : c.Concludes, (∀ i < n, (Client.nexts i c.next.2).Concludes) →
        ∀ i < n + 1, (Client.nexts i c).Concludes := by
      intro hcall hcalls i hi
      cases i with
      | zero => exact hcall
      | succ i =>
        rw [nexts_succ]
        exact hcalls i (Nat.lt_of_succ_lt_succ hi)
    rw [fates]
    rcases hnext k ws' hserved with ⟨hok, hfate, hk⟩ | ⟨htimeout, ⟨hfate, hk⟩ | ⟨hfate, hk⟩⟩
    · obtain ⟨hcalls, hturn⟩ := hrest (k + 1) hk
      rw [hfate]
      exact ⟨hconcludes (.inl ⟨hok, _, hfate⟩) hcalls, rfl, hturn⟩
    · obtain ⟨hcalls, hturn⟩ := hrest (k + 1) hk
      rw [hfate]
      exact ⟨hconcludes (.inr ⟨htimeout, .inl hfate⟩) hcalls, hturn⟩
    · obtain ⟨hcalls, hturn⟩ := hrest k hk
      rw [hfate]
      exact ⟨hconcludes (.inr ⟨htimeout, .inr hfate⟩) hcalls, hturn⟩

end

/-- **Frames come in order, and only an interrupted check of the format loses one.** A client that knows the
metadata calls for one frame after the other. The server answers each request in order, the frames may change
their format, and a deadline may pass at any read. Then every call shows a frame or meets a deadline, and the
frames meet their fates in turn: each is shown by one call, but for those that were read by a call whose
request for the metadata met a deadline. If there are none, the frames shown are the first ones that the
server sent, in order, with no gap and no repetition. -/
theorem fates_in_order {c : Client Connection} {f : Nat → View} (h : c.Ready) (hf : Sized f) (n : Nat)
    (hserved : Served f 0 (written c.channel (nexts n c).channel) c) :
    (∀ i < n, (nexts i c).Concludes) ∧ InTurn f 0 (fates n c) ∧
      (.lost ∉ fates n c → shown n c = (List.range (shown n c).length).map fun i => (f i).data) := by
  obtain ⟨hcalls, hturn⟩ := h.nexts hf n hserved
  refine ⟨hcalls, hturn, fun hlost => ?_⟩
  rw [List.range_eq_range']
  exact hturn.shown_eq hlost

/-- The metadata of frames of one row. -/
def row (width : UInt32) : Metadata := ⟨.uint8, width, 1, .grayscale, .planar, "topLeft"⟩

/-- Frames of one row that change their width. -/
def rows : Nat → View
  | 0 => ⟨row 4, [1, 2, 3, 4]⟩
  | 1 => ⟨row 3, [5, 6, 7]⟩
  | _ => ⟨row 5, [8, 9, 10, 11, 12]⟩

/-- The reply that describes a frame. -/
def describing (v : View) : Message := (Reply.json v.metadata.toJson).toMessage

/-- A client that knows the first width. The first frame is late, and so are the metadata after the second. -/
def lagging : Client Connection where
  endpoint := .unix "frames.sock"
  metadata := some (row 4)
  channel.stream.ending := some ⟨.timedOut, "late"⟩
  channel.stream.arrivals :=
    let late : Arrival := .failed ⟨.timedOut, "late"⟩
    let message (m : Message) : Arrival := .data (m.encode.toOption.getD [])
    [late, message ⟨.binary, (rows 0).data⟩, message ⟨.binary, (rows 1).data⟩, late,
      message (describing (rows 1)), message ⟨.binary, (rows 2).data⟩, message (describing (rows 2))]

theorem sized_rows : Sized rows
  | 0 | 1 | _ + 2 => rfl

theorem described_rows : ∀ k, described (Reply.ofMessage (describing (rows k))) = .ok (rows k).metadata
  | 0 => by decide +kernel
  | 1 => by decide +kernel
  | _ + 2 => show described (Reply.ofMessage (describing (rows 2))) = .ok (rows 2).metadata by decide +kernel

theorem ready_lagging : lagging.Ready := by
  refine ⟨rfl, rfl, ⟨⟨by simp [lagging], rfl, by simp [lagging]⟩, ?_, ⟨_, rfl, rfl⟩, ?_⟩, ?_, ?_⟩
  · decide +kernel
  · decide +kernel
  · exact ⟨by decide +kernel, by decide +kernel⟩
  · exact ⟨by decide +kernel, by decide +kernel⟩

theorem served_lagging : Served rows 0 (written lagging.channel (nexts 4 lagging).channel) lagging := by
  have hwritten : written lagging.channel (nexts 4 lagging).channel =
      [Request.frame.toMessage, Request.frame.toMessage, Request.metadata.toMessage,
        Request.frame.toMessage, Request.metadata.toMessage] := by decide +kernel
  have hinbound : lagging.channel.inbound = [⟨.binary, (rows 0).data⟩, ⟨.binary, (rows 1).data⟩,
      describing (rows 1), ⟨.binary, (rows 2).data⟩, describing (rows 2)] := by decide +kernel
  rw [Served, hwritten, hinbound]
  simp [Serves, due, lagging, metadata_ne_frame, described_rows]

theorem fates_lagging :
    fates 4 lagging = [.awaited, .shown (rows 0).data, .lost, .shown (rows 2).data] := by decide +kernel

/-- The late frame is shown by the next call, the one whose metadata are late is not shown at all. -/
theorem fates_in_order_lagging : lagging.Ready ∧ Sized rows ∧
    Served rows 0 (written lagging.channel (nexts 4 lagging).channel) lagging ∧
    (∀ i < 4, (nexts i lagging).Concludes) ∧ InTurn rows 0 (fates 4 lagging) ∧
    fates 4 lagging = [.awaited, .shown (rows 0).data, .lost, .shown (rows 2).data] := by
  obtain ⟨hcalls, hturn, -⟩ := fates_in_order ready_lagging sized_rows 4 served_lagging
  exact ⟨ready_lagging, sized_rows, served_lagging, hcalls, hturn, fates_lagging⟩

/-- Deadlines alone leave a gap: the second frame is not among those shown. -/
theorem shown_lagging : lagging.Ready ∧ Sized rows ∧
    Served rows 0 (written lagging.channel (nexts 4 lagging).channel) lagging ∧
    shown 4 lagging = [(rows 0).data, (rows 2).data] ∧ (rows 1).data ∉ shown 4 lagging := by
  have hshown : shown 4 lagging = [(rows 0).data, (rows 2).data] := by
    rw [shown, fates_lagging]; rfl
  refine ⟨ready_lagging, sized_rows, served_lagging, hshown, ?_⟩
  rw [hshown]
  decide

end Client
end FrameFeed
