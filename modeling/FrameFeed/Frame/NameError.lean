import FrameFeed.Text.Quoted
/-! # A name that stands for nothing -/
namespace FrameFeed

/-- A name that no value of an enumeration has. -/
structure NameError where
  /-- What was to be named, such as a layout. -/
  kind : String
  name : String
deriving DecidableEq, Repr

def NameError.message (e : NameError) : String :=
  "unknown " ++ e.kind ++ " name: " ++ Text.quote e.name

end FrameFeed
