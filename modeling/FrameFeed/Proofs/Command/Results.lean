import FrameFeed.Command.Run
import FrameFeed.Feed.Pattern
import FrameFeed.Proofs.Exchange.Metadata
import FrameFeed.Proofs.Json.Rereading
import FrameFeed.Proofs.Session.Violation
/-!
# Results given as documents

The body of a result is read twice: from the document in which the command is given it, and by the server from the
message in which it is sent, with the request around it. The request is one more level. So a body that is nested as
deep as a document may be is let through by the command, but its message is refused (`Request.ofMessage_too_deep`);
every other one arrives, as it was but for its doubles (`Request.exists_ofMessage_result`), and never ends the session
(`Command.result_taken_unless_deepest`).
-/
namespace FrameFeed

/-! ## A body within a request -/

namespace Request

variable {body : Json.Members}

/-- Why a message is refused that is nested too deep. -/
def tooDeep (m : Message) : ServiceError :=
  .malformed (Json.Fault.tooDeep.message ++ (decoder.position m.payload .tooDeep).text)

/-- With a level to spare for the request, a body is read from its message. -/
theorem exists_ofMessage_result (h : (Json.obj body).Holds) (hdepth : (Json.obj body).depth ≤ 126) :
    ∃ body', (Json.obj body').blur = (Json.obj body).blur ∧ ofMessage (result body).toMessage = .ok (result body') := by
  obtain ⟨w, hblur, hdenotes⟩ := Json.exists_denotes h hdepth
  obtain ⟨body', rfl⟩ := Json.eq_obj_of_blur hblur
  exact ⟨body', hblur, ofMessage_of_reads (Json.Decoder.reads_object_as hdenotes)⟩

/-- Otherwise its message is refused. -/
theorem ofMessage_too_deep (h : (Json.obj body).Holds) (hdepth : 126 < (Json.obj body).depth) :
    ofMessage (result body).toMessage = .error (tooDeep (result body).toMessage) := by
  have hparse : decoder.parse (Json.printRecord (result body).fields) = .error .tooDeep := by
    refine Json.Decoder.parse_record_refused ?_
    refine Json.Decoder.refuses_later rfl (by simp) (Json.Decoder.reads_text _ _) ?_
    refine Json.Decoder.refuses_first rfl (by simp) ?_
    exact Json.Decoder.refused_optional_object (Json.scanValue_too_deep h hdepth)
  simp only [ofMessage, toMessage, hparse, tooDeep]

theorem fault?_result (sink : Bool) (body : Json.Members) : (result body).fault? sink = none := by
  have htype : (result body).type = .ok .result := rfl
  rw [fault?, htype]
  simp [result]

end Request

/-! ## Sessions -/

namespace Session

variable {m : Message} {body : Json.Members}

/-- A message that is read as a result is no violation to the router of a source. -/
theorem not_violates_of_result {σ κ : Type} [FrameSource σ] [ResultsSink κ] {sink : Bool} {s : Service σ κ}
    {e : ServiceError} (h : Request.ofMessage m = .ok (Request.result body)) : ¬Violates (Router.ofSource sink) m s e := by
  rw [violates_ofSource_iff, h]
  rintro (herror | ⟨q, hq, hfault⟩)
  · cases herror
  · cases hq
    rw [Request.fault?_result] at hfault
    cases hfault

/-- A message that cannot be read as a request ends the session that receives it. -/
theorem run_of_unreadable {τ : Type} {router : Router τ} {c : Connection} {s : τ} {e : ServiceError}
    (hreceive : c.receive.1 = .ok m) (h : Request.ofMessage m = .error e) : (run router c s).1 = .violated e := by
  have hviolates : Violates router m s e := violates_of_ofMessage_error h
  have hturn := turn_violation hreceive (violates_iff.1 hviolates)
  rw [run_of_end hturn]

end Session

/-! ## The command -/

namespace Command

variable {text : String} {body : Json.Members}

/-- A body that is let through is one that a document can hold. -/
theorem within_of_resultBody (h : resultBody text = .ok body) : Json.Within 127 (.obj body) := by
  unfold resultBody at h
  split at h
  · rename_i ms hparse
    cases h
    exact Json.within_of_parse hparse
  · cases h
  · cases h

/-- **A result that the command lets through is taken by the server, unless it is nested as deep as a document may
be.** Its body is nested at most 127 levels, itself included. If it is nested less, the server reads the message as a
result whose body is the same but for its doubles, and no session with a source ends with a violation because of it:
where one does, another message is the violation, or a header cannot be read. If it is nested 127 levels, the server
refuses the message as nested too deep, and that ends the session which receives it, whatever its router. -/
theorem result_taken_unless_deepest (h : resultBody text = .ok body) :
    let m := (Request.result body).toMessage
    (Json.obj body).depth ≤ 127 ∧
      ((Json.obj body).depth ≠ 127 →
        (∃ body', (Json.obj body').blur = (Json.obj body).blur ∧ Request.ofMessage m = .ok (Request.result body')) ∧
        ∀ (σ κ : Type) [FrameSource σ] [ResultsSink κ] (sink : Bool) (c : Connection) (s : Service σ κ)
            (e : ServiceError),
          (Session.run (Router.ofSource sink) c s).1 = .violated e →
            (∃ f, e = .wire f) ∨ ∃ l ∈ c.messages, l ≠ m ∧
              ∃ t : Service σ κ, Session.Violates (Router.ofSource sink) l t e) ∧
      ((Json.obj body).depth = 127 →
        Request.ofMessage m = .error (Request.tooDeep m) ∧
        ∀ (τ : Type) (router : Router τ) (c : Connection) (s : τ), c.receive.1 = .ok m →
          (Session.run router c s).1 = .violated (Request.tooDeep m)) := by
  intro m
  obtain ⟨hholds, hdepth⟩ := within_of_resultBody h
  refine ⟨hdepth, fun hne => ?_, fun heq => ?_⟩
  · obtain ⟨body', hblur, hread⟩ := Request.exists_ofMessage_result hholds (by omega)
    refine ⟨⟨body', hblur, hread⟩, fun σ κ _ _ sink c s e hrun => ?_⟩
    rcases Session.run_violated hrun with hwire | ⟨l, hl, t, hviolates⟩
    · exact .inl hwire
    · refine .inr ⟨l, hl, ?_, t, hviolates⟩
      rintro rfl
      exact Session.not_violates_of_result hread hviolates
  · have hrefused := Request.ofMessage_too_deep hholds (by omega)
    exact ⟨hrefused, fun τ router c s hreceive => Session.run_of_unreadable hreceive hrefused⟩

/-- The text of an object of lists that are nested this deep. -/
def deepText (n : Nat) : String :=
  "\x7b\"deep\":" ++ String.ofList (List.replicate n '[') ++ String.ofList (List.replicate n ']') ++ "\x7d"

theorem eq_ok_of_toOption {ε α : Type} {r : Except ε α} {a : α} (h : r.toOption = some a) : r = .ok a := by
  cases r with
  | ok => cases h; rfl
  | error => cases h

theorem resultBody_deepText : resultBody (deepText 126) = .ok [("deep", Metadata.nest 125)] :=
  eq_ok_of_toOption (by decide +kernel)

/-- A connection on which this message is to come, and nothing else. -/
def bringing (m : Message) : Connection where
  stream.arrivals := [.data (m.encode.toOption.getD [])]

/-- A result with a double in a list is taken. One in lists that are nested 126 deep is refused, and with it the
session ends. -/
theorem result_taken_of_score :
    let score : Json.Members := [("score", .arr [.num (.double 0x3ff8000000000000), .null])]
    let m := (Request.result [("deep", Metadata.nest 125)]).toMessage
    resultBody "\x7b\"score\": [1.5, null]\x7d" = .ok score ∧
      (∃ body', (Json.obj body').blur = .obj [("score", .arr [.num (.double 0), .null])] ∧
        Request.ofMessage (Request.result score).toMessage = .ok (Request.result body')) ∧
      resultBody (deepText 126) = .ok [("deep", Metadata.nest 125)] ∧ (bringing m).receive.1 = .ok m ∧
      ∀ s : Service PatternSource,
        (Session.run (Router.ofSource true) (bringing m) s).1 = .violated (Request.tooDeep m) := by
  intro score m
  have hscore : resultBody "\x7b\"score\": [1.5, null]\x7d" = .ok score := eq_ok_of_toOption (by decide +kernel)
  have hreceive : (bringing m).receive.1 = .ok m := eq_ok_of_toOption (by decide +kernel)
  obtain ⟨-, htaken, -⟩ := result_taken_unless_deepest hscore
  obtain ⟨-, -, hrefused⟩ := result_taken_unless_deepest resultBody_deepText
  obtain ⟨body', hblur, hread⟩ := (htaken (by decide)).1
  refine ⟨hscore, ⟨body', hblur.trans rfl, hread⟩, resultBody_deepText, hreceive, fun s => ?_⟩
  exact (hrefused (by decide +kernel)).2 _ _ _ s hreceive

/-- A body in lists that are nested 126 deep is let through by the command, and its message is small; but it is
refused by the server. -/
theorem deepest_result_refused :
    ∃ body, resultBody (deepText 126) = .ok body ∧ (Request.result body).toMessage.Fits Message.defaultLimit ∧
      ∃ e, Request.ofMessage (Request.result body).toMessage = .error e ∧
        e.message = "malformed request: recursion limit exceeded at line 1 column 161" := by
  have hrefused := Request.ofMessage_too_deep (within_of_resultBody resultBody_deepText).holds (by decide +kernel)
  exact ⟨_, resultBody_deepText, ⟨by decide +kernel, by decide +kernel⟩, _, hrefused, by decide +kernel⟩

end Command

end FrameFeed
