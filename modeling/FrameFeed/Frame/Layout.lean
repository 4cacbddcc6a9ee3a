import FrameFeed.Frame.NameError
import FrameFeed.Json.Decoder
/-!
# Layouts

How the channels of an image are arranged in memory. A document may also spell the last one with a
capital letter inside.
-/
namespace FrameFeed

inductive Layout where
  | unknown
  /-- One plane per channel. -/
  | planar
  /-- The channels of a pixel stand side by side. -/
  | interleaved
  /-- A plane of luma, then interleaved chroma. -/
  | semiplanar
deriving DecidableEq, Repr, Inhabited

namespace Layout

def all : List Layout := [unknown, planar, interleaved, semiplanar]

def name : Layout → String
  | unknown => "unknown"
  | planar => "planar"
  | interleaved => "interleaved"
  | semiplanar => "semiplanar"

def ofName? (s : String) : Except NameError Layout :=
  match all.find? (·.name = s) with
  | some l => .ok l
  | none => .error ⟨"layout", s⟩

/-- The names a document may use. -/
def spellings : List (String × Layout) :=
  [("unknown", unknown), ("planar", planar), ("interleaved", interleaved),
    ("semiPlanar", semiplanar), ("semiplanar", semiplanar)]

def decoder : Json.Decoder Layout := .name spellings

/-- The name it has in a document that is written. -/
def wireName : Layout → String
  | unknown => "unknown"
  | planar => "planar"
  | interleaved => "interleaved"
  | semiplanar => "semiplanar"

def toJson (l : Layout) : Json := .str l.wireName

theorem toJson_eq (l : Layout) : l.toJson = .str l.name := by cases l <;> rfl

theorem ofName?_name (l : Layout) : ofName? l.name = .ok l := by cases l <;> rfl

end Layout
end FrameFeed
