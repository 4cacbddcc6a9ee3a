import FrameFeed.Frame.ColorSpace
import FrameFeed.Frame.Layout
import FrameFeed.Frame.ElementType
/-!
# Metadata of a frame

What a frame's bytes mean: its dimensions, color space, layout, element type and orientation. The
size of such a frame is the product of pixels, channels and element size, computed in machine words
of sixty-four bits from left to right: `checkedSize` gives up on the first product that does not fit,
`size` then stands at the largest word.
-/
namespace FrameFeed

structure Metadata where
  elementType : ElementType
  width : UInt32
  height : UInt32
  colorSpace : ColorSpace
  layout : Layout
  orientation : String := "topLeft"
deriving DecidableEq, Repr, Inhabited

/-- The number of values of a machine word. -/
def wordLimit : Nat := 0x10000000000000000

/-- The product, if it fits in a word. -/
def checkedMul (a b : Nat) : Option Nat := if a * b < wordLimit then some (a * b) else none

namespace Metadata

def channels (m : Metadata) : Nat := m.colorSpace.channels

def pixels (m : Metadata) : Nat := min (m.width.toNat * m.height.toNat) (wordLimit - 1)

/-- Bytes of a frame, or nothing when they do not fit in a word. -/
def checkedSize (m : Metadata) : Option Nat := do
  let pixels ← checkedMul m.width.toNat m.height.toNat
  let elements ← checkedMul pixels m.channels
  checkedMul elements m.elementType.size

/-- Bytes of a frame, at most the largest word. -/
def size (m : Metadata) : Nat := m.checkedSize.getD (wordLimit - 1)

def text (m : Metadata) : String :=
  s!"{m.width}x{m.height} " ++ m.colorSpace.name ++ " " ++ m.layout.name ++ " " ++ m.elementType.name ++
    " (" ++ m.orientation ++ ")"

/-! ## As a document -/

/-- The fields in the order in which they are written. -/
def fields (m : Metadata) : Json.Members :=
  [("dataType", m.elementType.toJson), ("width", .num (.int m.width.toNat)),
    ("height", .num (.int m.height.toNat)), ("colorSpace", m.colorSpace.toJson),
    ("layout", m.layout.toJson), ("orientation", .str m.orientation)]

theorem fields_eq (m : Metadata) : m.fields =
    [("dataType", .str m.elementType.name), ("width", .num (.int m.width.toNat)),
      ("height", .num (.int m.height.toNat)), ("colorSpace", .str m.colorSpace.name),
      ("layout", .str m.layout.name), ("orientation", .str m.orientation)] := by
  rw [fields, ElementType.toJson_eq, ColorSpace.toJson_eq, Layout.toJson_eq]

def print (m : Metadata) : Bytes := Json.printRecord m.fields

/-- As a JSON value, whose members stand in the order of their keys. -/
def toJson (m : Metadata) : Json := .obj (Json.ofMembers m.fields)

open Json.Decoder in
/-- The orientation need not be given. -/
def decoder : Json.Decoder Metadata :=
  record "struct ImageMetadata"
    [field "dataType" true ElementType.decoder fun m v => { m with elementType := v },
      field "width" true word32 fun m v => { m with width := v.toUInt32 },
      field "height" true word32 fun m v => { m with height := v.toUInt32 },
      field "colorSpace" true ColorSpace.decoder fun m v => { m with colorSpace := v },
      field "layout" true Layout.decoder fun m v => { m with layout := v },
      field "orientation" false Json.Decoder.text fun m v => { m with orientation := v }]
    { elementType := .unknown, width := 0, height := 0, colorSpace := .unknown, layout := .unknown }

def parse (s : Bytes) : Except Json.Fault Metadata := decoder.parse s

def ofJson (v : Json) : Except Json.Fault Metadata := decoder.view v

end Metadata
end FrameFeed
