import FrameFeed.Exchange.Reply
import FrameFeed.Exchange.Request
import FrameFeed.Proofs.Json.RoundTrip
/-!
# Messages read back

What one side writes is what the other side reads: requests (`Request.ofMessage_toMessage`), replies
(`Reply.ofMessage_json`), metadata and failures among them (`Metadata.ofJson_toJson`,
`ErrorReply.toFrameError_ofFrameError`). So messages are read back, and no two of them are written alike
(`messages_read_back`).
-/
namespace FrameFeed

/-! ## Requests -/

namespace Request

/-- The body is nested at most 126 levels deep, itself included; with the request around it that is the most
that is read. -/
def Exact (q : Request) : Prop := ∀ ms, q.body = some ms → Json.Exact (.obj ms) ∧ (Json.obj ms).depth ≤ 126

theorem exact_of_no_body (tag : String) : Exact ⟨tag, none⟩ := nofun

theorem exact_of_empty_body (tag : String) : Exact ⟨tag, some []⟩ := by
  intro ms hms
  cases hms
  exact ⟨.obj .nil (List.forall_mem_nil _), by decide⟩

/-- A request with a body is read with the body that this is read as. -/
theorem ofMessage_of_reads {tag : String} {ms ms' : Json.Members}
    (h : Json.Decoder.object.Reads (Json.depthLimit - 1) (.obj ms) ms') :
    ofMessage (toMessage ⟨tag, some ms⟩) = .ok ⟨tag, some ms'⟩ := by
  have hparse : decoder.parse (Json.printRecord (fields ⟨tag, some ms⟩)) = .ok ⟨tag, some ms'⟩ := by
    refine Json.Decoder.parse_record ["body", "request"] ?_ rfl
    refine Json.Decoder.takes_member rfl (by simp) (Json.Decoder.reads_text _ tag) ?_
    exact Json.Decoder.takes_member rfl (by simp) (Json.Decoder.reads_optional_object h) rfl
  simp only [ofMessage, toMessage, hparse]

theorem ofMessage_toMessage {q : Request} (h : q.Exact) : ofMessage q.toMessage = .ok q := by
  obtain ⟨tag, body⟩ := q
  cases body with
  | none =>
    have hparse : decoder.parse (Json.printRecord (fields ⟨tag, none⟩)) = .ok ⟨tag, none⟩ := by
      refine Json.Decoder.parse_record ["request"] ?_ rfl
      exact Json.Decoder.takes_member rfl (by simp) (Json.Decoder.reads_text _ tag) rfl
    simp only [ofMessage, toMessage, hparse]
  | some ms =>
    obtain ⟨hexact, hdepth⟩ := h ms rfl
    exact ofMessage_of_reads (Json.Decoder.reads_object hexact hdepth)

end Request

/-! ## Metadata -/

namespace Metadata

theorem ofMembers_fields (m : Metadata) : Json.ofMembers m.fields =
    [("colorSpace", .str m.colorSpace.name), ("dataType", .str m.elementType.name),
      ("height", .num (.int m.height.toNat)), ("layout", .str m.layout.name),
      ("orientation", .str m.orientation), ("width", .num (.int m.width.toNat))] := by
  simp only [Json.ofMembers, fields_eq, List.foldl_cons, List.foldl_nil, Json.insert, String.reduceLT,
    String.reduceEq, if_true, if_false]

theorem exact_word (w : UInt32) : Json.Exact (.num (.int w.toNat)) := by
  have := w.toNat_lt
  exact .int (by omega) (by omega)

theorem exact_toJson (m : Metadata) : Json.Exact m.toJson := by
  rw [toJson, ofMembers_fields]
  refine .obj (Json.sorted_of_keys ["colorSpace", "dataType", "height", "layout", "orientation", "width"] rfl
    (by decide)) ?_
  intro v hv
  simp only [List.mem_cons, List.not_mem_nil, or_false] at hv
  rcases hv with rfl | rfl | rfl | rfl | rfl | rfl
  · exact .str _
  · exact .str _
  · exact exact_word _
  · exact .str _
  · exact .str _
  · exact exact_word _

theorem depth_toJson (m : Metadata) : m.toJson.depth = 1 := by
  rw [toJson, ofMembers_fields]; rfl

theorem view_colorSpace (c : ColorSpace) : ColorSpace.decoder.view (.str c.name) = .ok c := by
  cases c <;> rfl

theorem view_elementType (t : ElementType) : ElementType.decoder.view (.str t.name) = .ok t := by
  cases t <;> rfl

theorem view_layout (l : Layout) : Layout.decoder.view (.str l.name) = .ok l := by
  cases l <;> rfl

theorem view_word32 (w : UInt32) : Json.Decoder.word32.view (.num (.int w.toNat)) = .ok w.toNat := by
  have hlt := w.toNat_lt
  have hrange : (0 : Int) ≤ w.toNat ∧ (w.toNat : Int) < 0x100000000 := by omega
  simp only [Json.Decoder.word32, Json.Decoder.word32Of, if_pos hrange, Int.toNat_natCast]

/-- Metadata are read as they were written. -/
theorem ofJson_toJson (m : Metadata) : ofJson m.toJson = .ok m := by
  have hwidth : m.width.toNat.toUInt32 = m.width := by simp
  have hheight : m.height.toNat.toUInt32 = m.height := by simp
  rw [toJson, ofMembers_fields]
  refine Json.Decoder.view_record
    ["width", "orientation", "layout", "height", "dataType", "colorSpace"] ?_ rfl
  refine Json.Decoder.view_member rfl (view_colorSpace _) ?_
  refine Json.Decoder.view_member rfl (view_elementType _) ?_
  refine Json.Decoder.view_member rfl (view_word32 _) ?_
  refine Json.Decoder.view_member rfl (view_layout _) ?_
  refine Json.Decoder.view_member (b := m.orientation) rfl rfl ?_
  refine Json.Decoder.view_member rfl (view_word32 _) ?_
  rw [hwidth, hheight]
  rfl

end Metadata

/-! ## Replies -/

namespace ErrorReply

theorem ofMembers_fields (r : ErrorReply) :
    Json.ofMembers r.fields = [("error", .str r.tag), ("message", .str r.text)] := by
  simp only [Json.ofMembers, fields, List.foldl_cons, List.foldl_nil, Json.insert, String.reduceLT,
    String.reduceEq, if_false]

theorem view_toJson (r : ErrorReply) : decoder.view r.toJson = .ok r := by
  rw [toJson, ofMembers_fields]
  refine Json.Decoder.view_record ["message", "error"] ?_ rfl
  refine Json.Decoder.view_member (b := r.tag) rfl rfl ?_
  exact Json.Decoder.view_member (b := r.text) rfl rfl rfl

/-- A cause is rebuilt from what the peer is told of it. Buffers that are too small are no cause for a peer, and
causes that nobody knows come back with their tag. -/
theorem toFrameError_ofFrameError {e : FrameError} (hcapacity : e.tag ≠ "insufficientCapacity")
    (hunknown : e.tag ≠ "unknown") : (ofFrameError e).toFrameError = e := by
  have hdetail : ∀ s : String, (if s.isEmpty then none else some s).getD "" = s := by
    intro s
    by_cases hs : s.isEmpty
    · simp [String.isEmpty_iff.1 hs]
    · simp [hs]
  cases e with
  | insufficientCapacity m c => exact absurd rfl hcapacity
  | unknown s => exact absurd rfl hunknown
  | timeout => rfl
  | overflow => rfl
  | endOfStream => rfl
  | noFrame => rfl
  | formatUnsupported s => exact congrArg FrameError.formatUnsupported (hdetail s)
  | invalidParameter s => exact congrArg FrameError.invalidParameter (hdetail s)
  | unsupportedAction s => exact congrArg FrameError.unsupportedAction (hdetail s)
  | notImplemented s => exact congrArg FrameError.notImplemented (hdetail s)
  | faulted s => exact congrArg FrameError.faulted (hdetail s)

end ErrorReply

namespace Reply

/-- A reply that is no failure is read as it was written. -/
theorem ofMessage_json {v : Json} (h : Json.Exact v) (hdepth : v.depth ≤ Json.depthLimit)
    (herror : v.get? "error" = none) : ofMessage (json v).toMessage = .ok (json v) := by
  have hparse := Json.parse_print h hdepth
  simp only [ofMessage, toMessage, hparse, herror]

theorem ofMessage_metadata (m : Metadata) : ofMessage (json m.toJson).toMessage = .ok (json m.toJson) := by
  refine ofMessage_json m.exact_toJson ?_ ?_
  · rw [m.depth_toJson]; decide
  · rw [Metadata.toJson, Metadata.ofMembers_fields]
    simp [Json.get?, Json.lookup?]

theorem ofMessage_ack : ofMessage ack.toMessage = .ok ack := by
  have hack : ack = json (.obj [("status", .str "success")]) := rfl
  rw [hack]
  exact ofMessage_json (.obj (by simp) (by simp [Json.Exact.str])) (by decide) rfl

/-- A failure is read as the cause that it stands for. -/
theorem ofMessage_error (r : ErrorReply) : ofMessage (error r).toMessage = .error r.toFrameError := by
  have hobject : r.toJson = .obj [("error", .str r.tag), ("message", .str r.text)] := by
    rw [ErrorReply.toJson, ErrorReply.ofMembers_fields]
  have hexact : Json.Exact r.toJson := by
    rw [hobject]
    refine .obj (Json.sorted_of_keys ["error", "message"] rfl (by decide)) ?_
    intro m hm
    simp only [List.mem_cons, List.not_mem_nil, or_false] at hm
    rcases hm with rfl | rfl <;> exact .str _
  have hdepth : r.toJson.depth ≤ Json.depthLimit := by
    rw [hobject]
    exact (by decide : 1 ≤ Json.depthLimit)
  have hparse := Json.parse_print hexact hdepth
  have herror : r.toJson.get? "error" = some (.str r.tag) := by rw [hobject]; rfl
  simp only [ofMessage, toMessage, error, hparse, herror, r.view_toJson]

end Reply

/-! ## Messages of either kind -/

/-- A value is nested at most 127 levels deep, and no failure. -/
def Reply.Exact : Reply → Prop
  | .json v => Json.Exact v ∧ v.depth ≤ 127 ∧ v.get? "error" = none
  | .binary _ => True

theorem Reply.ofMessage_toMessage {r : Reply} (h : r.Exact) : ofMessage r.toMessage = .ok r := by
  cases r with
  | json v =>
    obtain ⟨hexact, hdepth, herror⟩ := h
    exact ofMessage_json hexact hdepth herror
  | binary data => rfl

/-- What is read back is not written like anything else. -/
theorem eq_of_read {α ε : Type} {write : α → Message} {read : Message → Except ε α} {a b : α}
    (ha : read (write a) = .ok a) (hb : read (write b) = .ok b) (h : write a = write b) : a = b := by
  rw [h, hb] at ha
  exact (Except.ok.inj ha).symm

/-- **Messages are read back.** A request is read as it was written, whatever its tag and its body, and so is
a reply. Two requests are never written alike, nor are two replies; a request with an empty body is not
written as one without a body, and each is read as what it is. -/
theorem messages_read_back :
    (∀ q : Request, q.Exact → Request.ofMessage q.toMessage = .ok q) ∧
    (∀ q q' : Request, q.Exact → q'.Exact → q.toMessage = q'.toMessage → q = q') ∧
    (∀ tag, Request.toMessage ⟨tag, none⟩ ≠ Request.toMessage ⟨tag, some []⟩ ∧
      Request.ofMessage (Request.toMessage ⟨tag, none⟩) = .ok ⟨tag, none⟩ ∧
      Request.ofMessage (Request.toMessage ⟨tag, some []⟩) = .ok ⟨tag, some []⟩) ∧
    (∀ r : Reply, r.Exact → Reply.ofMessage r.toMessage = .ok r) ∧
    ∀ r r' : Reply, r.Exact → r'.Exact → r.toMessage = r'.toMessage → r = r' := by
  refine ⟨fun _ hq => Request.ofMessage_toMessage hq, ?_, ?_, fun _ hr => Reply.ofMessage_toMessage hr, ?_⟩
  · intro q q' hq hq' heq
    exact eq_of_read (Request.ofMessage_toMessage hq) (Request.ofMessage_toMessage hq') heq
  · intro tag
    have hnone := Request.ofMessage_toMessage (Request.exact_of_no_body tag)
    have hempty := Request.ofMessage_toMessage (Request.exact_of_empty_body tag)
    refine ⟨?_, hnone, hempty⟩
    intro heq
    cases eq_of_read hnone hempty heq
  · intro r r' hr hr' heq
    exact eq_of_read (Reply.ofMessage_toMessage hr) (Reply.ofMessage_toMessage hr') heq

/-- A tag of quotes, controls and a letter beyond ASCII; the numbers at both ends of their range; and a key
`error` that does not stand at the top. -/
theorem messages_read_back_with_extremes :
    let inner : Json := .obj [("error", .str "\u0000\"\\"), ("é", .arr [.null, .bool true])]
    let ms : Json.Members :=
      [("", .num (.int (-0x8000000000000000))), ("\n", .num (.int 0xffffffffffffffff)), ("deep", inner)]
    let q : Request := ⟨"\"tag\"\u0001\té", some ms⟩
    let r : Reply := .json (.obj ms)
    Request.ofMessage q.toMessage = .ok q ∧ Reply.ofMessage r.toMessage = .ok r ∧
      q.toMessage ≠ Request.toMessage ⟨q.tag, none⟩ := by
  intro inner ms q r
  have hinner : Json.Exact inner := by
    refine .obj (by decide) ?_
    intro m hm
    simp only [List.mem_cons, List.not_mem_nil, or_false] at hm
    rcases hm with rfl | rfl
    · exact .str _
    · refine .arr ?_
      intro v hv
      simp only [List.mem_cons, List.not_mem_nil, or_false] at hv
      rcases hv with rfl | rfl
      · exact .null
      · exact .bool true
  have hms : Json.Exact (.obj ms) := by
    refine .obj (Json.sorted_of_keys ["", "\n", "deep"] rfl (by decide)) ?_
    intro m hm
    simp only [ms, List.mem_cons, List.not_mem_nil, or_false] at hm
    rcases hm with rfl | rfl | rfl
    · exact .int (by decide) (by decide)
    · exact .int (by decide) (by decide)
    · exact hinner
  have hq : q.Exact := by
    rintro _ ⟨⟩
    exact ⟨hms, by decide⟩
  obtain ⟨hread, hinj, -, hreply, -⟩ := messages_read_back
  refine ⟨hread q hq, hreply r ⟨hms, by decide, by decide⟩, ?_⟩
  intro heq
  have hsame : q = ⟨q.tag, none⟩ := hinj _ _ hq (Request.exact_of_no_body q.tag) heq
  exact Option.some_ne_none ms (congrArg Request.body hsame)

end FrameFeed
