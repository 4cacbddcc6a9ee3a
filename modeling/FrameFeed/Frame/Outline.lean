import FrameFeed.Frame.Metadata
/-!
# Metadata shown by its parts

The outline of a value names its type and its fields, as messages for whoever looks for a fault do.
-/
namespace FrameFeed

/-- A name with its first letter in upper case. -/
def outlineName (name : String) : String :=
  match name.toList with
  | [] => ""
  | c :: cs => .ofList (c.toUpper :: cs.map Char.toLower)

namespace ColorSpace

def outline : ColorSpace → String
  | bayerRG => "BayerRg"
  | bayerGR => "BayerGr"
  | bayerBG => "BayerBg"
  | bayerGB => "BayerGb"
  | c => outlineName c.name

end ColorSpace

/-- A value that may be absent. -/
def outlineOption : Option String → String
  | some s => "Some(" ++ s ++ ")"
  | none => "None"

/-- A record with the outlines of its fields. -/
def outlineRecord (name : String) (fields : List (String × String)) : String :=
  name ++ " \x7b " ++ ", ".intercalate (fields.map fun f => f.1 ++ ": " ++ f.2) ++ " \x7d"

namespace Metadata

def outline (m : Metadata) : String :=
  outlineRecord "ImageMetadata"
    [("element_type", outlineName m.elementType.name), ("width", toString m.width),
      ("height", toString m.height), ("color_space", m.colorSpace.outline),
      ("layout", outlineName m.layout.name), ("orientation", Text.quote m.orientation)]

end Metadata
end FrameFeed
