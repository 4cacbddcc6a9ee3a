import FrameFeed.Json.Decoder
/-! # Cameras: who they are and how they are reached -/
namespace FrameFeed

structure Camera where
  id : String
  displayName : String
  sourceType : String
  connection : String
deriving DecidableEq, Repr, Inhabited

namespace Camera

def text (c : Camera) : String :=
  c.displayName ++ " (" ++ c.id ++ ", " ++ c.sourceType ++ ") @ " ++ c.connection

/-- The fields in the order in which they are written. -/
def fields (c : Camera) : Json.Members :=
  [("id", .str c.id), ("displayName", .str c.displayName), ("sourceType", .str c.sourceType),
    ("connection", .str c.connection)]

def print (c : Camera) : Bytes := Json.printRecord c.fields

open Json.Decoder in
def decoder : Json.Decoder Camera :=
  record "struct CameraInfo"
    [field "id" true Json.Decoder.text fun c v => { c with id := v },
      field "displayName" true Json.Decoder.text fun c v => { c with displayName := v },
      field "sourceType" true Json.Decoder.text fun c v => { c with sourceType := v },
      field "connection" true Json.Decoder.text fun c v => { c with connection := v }]
    ⟨"", "", "", ""⟩

def parse (s : Bytes) : Except Json.Fault Camera := decoder.parse s

end Camera
end FrameFeed
