import FrameFeed.Exchange.Error
import FrameFeed.Json.Decoder
/-! # The requests every server knows -/
namespace FrameFeed

inductive RequestType where
  | metadata
  | frame
  | result
  | execute
deriving DecidableEq, Repr, Inhabited

namespace RequestType

def all : List RequestType := [metadata, frame, result, execute]

def name : RequestType → String
  | metadata => "metadata"
  | frame => "frame"
  | result => "result"
  | execute => "execute"

def ofName? (s : String) : Except ServiceError RequestType :=
  match all.find? (·.name = s) with
  | some t => .ok t
  | none => .error (.unknownRequest s)

/-- The names a document may use. -/
def spellings : List (String × RequestType) :=
  [("metadata", metadata), ("frame", frame), ("result", result), ("execute", execute)]

def decoder : Json.Decoder RequestType := .name spellings

/-- The name it has in a document that is written. -/
def wireName : RequestType → String
  | metadata => "metadata"
  | frame => "frame"
  | result => "result"
  | execute => "execute"

def toJson (t : RequestType) : Json := .str t.wireName

theorem toJson_eq (t : RequestType) : t.toJson = .str t.name := by cases t <;> rfl

theorem ofName?_name (t : RequestType) : ofName? t.name = .ok t := by cases t <;> rfl

end RequestType
end FrameFeed
