import FrameFeed.Address.SocketFile
/-!
# Listeners by name

The listeners of a program that keeps each under a name. A name that is given again lets go the
listener it had, once the new one is bound.
-/
namespace FrameFeed

structure Listeners where
  directory : Directory := {}
  named : List (String × SocketFile) := []

namespace Listeners

def find? (name : String) (l : Listeners) : Option SocketFile := l.named.lookup name

def without (name : String) (l : Listeners) : List (String × SocketFile) := l.named.filter (·.1 ≠ name)

def bind (name path : String) (mode : Nat) (l : Listeners) :
    Except EndpointError SocketFile × Listeners :=
  match l.directory.bind path mode with
  | (.error e, directory) => (.error e, { l with directory })
  | (.ok s, d) => (.ok s, ⟨(l.find? name).elim d fun old => d.release old, (name, s) :: l.without name⟩)

/-- The listener of this name goes; tells whether there was one. -/
def drop (name : String) (l : Listeners) : Bool × Listeners :=
  match l.find? name with
  | some s => (true, ⟨l.directory.release s, l.without name⟩)
  | none => (false, l)

/-- Nobody looks after the listener of this name any more, though it goes on listening. -/
def forget (name : String) (l : Listeners) : Bool × Listeners :=
  ((l.find? name).isSome, { l with named := l.without name })

/-- Sends data to a path and ends; gives what the listener of this name reads from the connection it
accepts next. -/
def exchange (name path : String) (data : Bytes) (l : Listeners) :
    Except EndpointError (Bytes × Listeners) :=
  match l.directory.connect path data with
  | (.error e, _) => .error e
  | (.ok (), directory) =>
    match (l.find? name).bind directory.accept with
    | some (got, directory) => .ok (got, { l with directory })
    | none => .ok ([], { l with directory })

end Listeners
end FrameFeed
