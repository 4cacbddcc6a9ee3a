import FrameFeed.Command.Table
import FrameFeed.Frame.Camera
import FrameFeed.Frame.View
/-!
# What commands print

Each kind of result is printed as JSON, as a table or in words.
-/
namespace FrameFeed

inductive Format where
  | json
  | table
  | pretty
deriving DecidableEq, Repr

namespace Format

/-- The names of the formats. -/
def spellings : List (String × Format) := [("json", json), ("table", table), ("pretty", pretty)]

end Format

/-- What `grab` tells of a frame. -/
structure FrameSummary where
  index : Nat
  width : UInt32
  height : UInt32
  size : Nat
  checksum : String
  complete : Bool
deriving DecidableEq, Repr

namespace FrameSummary

def ofView (index : Nat) (v : View) : FrameSummary :=
  ⟨index, v.metadata.width, v.metadata.height, v.length, Bytes.checksum v.data, v.isComplete⟩

/-- The fields in the order in which they are written. -/
def fields (s : FrameSummary) : Json.Members :=
  [("index", .num (.int s.index)), ("width", .num (.int s.width.toNat)),
    ("height", .num (.int s.height.toNat)), ("size_bytes", .num (.int s.size)),
    ("checksum", .str s.checksum), ("complete", .bool s.complete)]

end FrameSummary

namespace Output

def line (s : String) : String := s ++ "\n"

def jsonLine (b : Bytes) : String := line (Bytes.text b)

def metadata (m : Metadata) : Format → String
  | .json => jsonLine m.print
  | .table => Table.render
      ⟨["WIDTH", "HEIGHT", "COLOR SPACE", "LAYOUT", "DATA TYPE", "ORIENTATION", "BYTES"],
        [[toString m.width, toString m.height, m.colorSpace.name, m.layout.name, m.elementType.name,
          m.orientation, toString m.size]]⟩
  | .pretty =>
    line "Image metadata:" ++
    line s!"  Size:         {m.width}x{m.height}" ++
    line ("  Color space:  " ++ m.colorSpace.name) ++
    line ("  Layout:       " ++ m.layout.name) ++
    line ("  Data type:    " ++ m.elementType.name) ++
    line ("  Orientation:  " ++ m.orientation) ++
    line s!"  Frame bytes:  {m.size}"

def frames (fs : List FrameSummary) : Format → String
  | .json => String.join (fs.map fun f => jsonLine (Json.printRecord f.fields))
  | .table => Table.render
      ⟨["#", "SIZE", "BYTES", "CHECKSUM", "COMPLETE"],
        fs.map fun f =>
          [toString f.index, s!"{f.width}x{f.height}", toString f.size, f.checksum,
            toString f.complete]⟩
  | .pretty => String.join <| fs.map fun f =>
      line (s!"frame={f.index} size={f.width}x{f.height} bytes={f.size} checksum=" ++ f.checksum ++
        if f.complete then "" else " (incomplete)")

/-- A request that succeeded, with what it was about. -/
def status (request : String) (detail : Option String) : Format → String
  | .json =>
    let told : Json.Members := match detail with
      | some d => [("detail", .str d)]
      | none => []
    jsonLine (Json.printRecord ([("request", .str request), ("status", .str "success")] ++ told))
  | .table => Table.render
      ⟨["REQUEST", "STATUS", "DETAIL"], [[request, "success", detail.getD "-"]]⟩
  | .pretty => match detail with
    | some d => line (request ++ " " ++ d ++ ": success")
    | none => line (request ++ ": success")

/-- A list of cameras as a document. -/
def cameraList (cs : List Camera) : Bytes := 91 :: ([44].intercalate (cs.map Camera.print)) ++ [93]

def cameras (cs : List Camera) : Format → String
  | .json => jsonLine (cameraList cs)
  | .table => Table.render
      ⟨["ID", "NAME", "TYPE", "CONNECTION"],
        cs.map fun c => [c.id, c.displayName, c.sourceType, c.connection]⟩
  | .pretty => String.join (cs.map fun c => line c.text)

/-- A result that a server received. -/
def result (body : Json.Members) : Format → String
  | .pretty => line ("result: " ++ Bytes.text (Json.obj body).pretty)
  | _ => jsonLine (Json.obj body).print

end Output
end FrameFeed
