import FrameFeed.Frame.Metadata
/-! # A frame: metadata and the bytes it describes -/
namespace FrameFeed

structure View where
  metadata : Metadata
  data : Bytes
deriving DecidableEq, Repr

namespace View

def length (v : View) : Nat := v.data.length

def isEmpty (v : View) : Bool := v.data.isEmpty

/-- As many bytes as the metadata describes. -/
def isComplete (v : View) : Bool := v.data.length == v.metadata.size

end View
end FrameFeed
