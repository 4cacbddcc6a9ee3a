import FrameFeed.Frame.NameError
import FrameFeed.Json.Decoder
/-!
# Element types

The scalar type of one channel of one pixel, with its size in bytes. The two floating types have an
older name each, which is read and never written.
-/
namespace FrameFeed

inductive ElementType where
  | unknown
  | boolean
  | uint8
  | uint16
  | float32
  | float64
deriving DecidableEq, Repr, Inhabited

namespace ElementType

def all : List ElementType := [unknown, boolean, uint8, uint16, float32, float64]

def name : ElementType → String
  | unknown => "unknown"
  | boolean => "boolean"
  | uint8 => "uint8"
  | uint16 => "uint16"
  | float32 => "float32"
  | float64 => "float64"

/-- Bytes of one element. -/
def size : ElementType → Nat
  | unknown => 0
  | boolean | uint8 => 1
  | uint16 => 2
  | float32 => 4
  | float64 => 8

def ofName? (s : String) : Except NameError ElementType :=
  if s = "binary32" then .ok float32
  else if s = "binary64" then .ok float64
  else match all.find? (·.name = s) with
    | some t => .ok t
    | none => .error ⟨"element type", s⟩

/-- The names a document may use. -/
def spellings : List (String × ElementType) :=
  [("unknown", unknown), ("boolean", boolean), ("uint8", uint8), ("uint16", uint16),
    ("binary32", float32), ("float32", float32), ("binary64", float64), ("float64", float64)]

def decoder : Json.Decoder ElementType := .name spellings

/-- The name it has in a document that is written. -/
def wireName : ElementType → String
  | unknown => "unknown"
  | boolean => "boolean"
  | uint8 => "uint8"
  | uint16 => "uint16"
  | float32 => "float32"
  | float64 => "float64"

def toJson (t : ElementType) : Json := .str t.wireName

theorem toJson_eq (t : ElementType) : t.toJson = .str t.name := by cases t <;> rfl

theorem ofName?_name (t : ElementType) : ofName? t.name = .ok t := by cases t <;> rfl

end ElementType
end FrameFeed
