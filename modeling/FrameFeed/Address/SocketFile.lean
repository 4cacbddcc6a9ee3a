import FrameFeed.Address.Endpoint
import FrameFeed.Address.Place
import FrameFeed.Bytes
/-!
# Socket files

A listener on a path owns the socket file it made there. Binding replaces a socket that stands at the
path, whoever made it, and nothing else; a listener that goes removes the file at its path only while
that file is still its own. Each file has a number of its own, by which a listener knows its file
again. Every call to the system can fail (`Faults`), but nobody else comes between the calls of one
operation. Those who connect wait at the listener until it accepts them, in the order in which they
came.
-/
namespace FrameFeed

/-- What stands at a place. A regular file stands for all that is neither a folder nor a socket. -/
inductive File where
  | regular
  | folder
  | socket (id mode : Nat)
deriving DecidableEq, Repr

/-- The number of a socket. -/
def File.number? : File → Option Nat
  | .socket id _ => some id
  | _ => none

/-- A listener, and the number of the file at its path when it was bound, if it was told. -/
structure SocketFile where
  path : String
  id : Nat
  identity : Option Nat
deriving DecidableEq, Repr

namespace SocketFile

/-- The length in bytes at which a path is too long for a socket. -/
def pathLimit : Nat := 108

/-- Read and write for the owner alone. -/
def defaultMode : Nat := 0o600

def notFound : IoError := ⟨.notFound, "No such file or directory (os error 2)"⟩
def unnamed : IoError := ⟨.other, "Invalid argument (os error 22)"⟩
def notFolder : IoError := ⟨.other, "Not a directory (os error 20)"⟩
def inUse : IoError := ⟨.addrInUse, "Address already in use (os error 98)"⟩
def refused : IoError := ⟨.connectionRefused, "Connection refused (os error 111)"⟩
def occupied : IoError := ⟨.alreadyExists, "existing path is not a unix socket"⟩

/-- What no path of a socket can be. -/
def unusable? (path : String) : Option IoError :=
  if path.toList.contains '\x00' then
    some ⟨.other, "paths must not contain interior null bytes"⟩
  else if pathLimit ≤ path.utf8ByteSize then some ⟨.other, "path must be shorter than SUN_LEN"⟩
  else none

end SocketFile

/-- The calls to the system that fail in one operation, each with its error. -/
structure Faults where
  /-- To see what stands at the path. -/
  look : Option IoError := none
  /-- To remove the socket that stands there. -/
  remove : Option IoError := none
  /-- To get a socket. -/
  socket : Option IoError := none
  /-- To give the socket its file. -/
  make : Option IoError := none
  /-- To listen, with the file already made. -/
  listen : Option IoError := none
  /-- To give the new file its mode. -/
  setMode : Option IoError := none
  /-- To remove the new file again. -/
  undo : Option IoError := none
  /-- To see the number of the new file. -/
  identify : Option IoError := none
deriving DecidableEq, Repr

/-- What stands at the places of a system, and the data of those who wait to be accepted, by the
number of the socket they wait at. -/
structure Directory where
  /-- Where each path leads, by the folders and links that there are. -/
  leads : String → Route := Route.among Place.isCommonFolder
  files : List (Place × File) := []
  waiting : List (Nat × Bytes) := []
  nextId : Nat := 1
  /-- The mode of a socket file that was given none. -/
  freshMode : Nat := 0o755

namespace Directory

open SocketFile (pathLimit notFound unnamed notFolder inUse refused occupied unusable?)

/-! ## Files -/

/-- Where a path leads now. No file has the empty path. -/
def route (path : String) (d : Directory) : Route :=
  if path.isEmpty || path.toList.contains '\x00' then .nowhere else d.leads path

/-- What stands at a place. -/
def standing (p : Place) (d : Directory) : Option File := (d.files.find? (·.1 = p)).map (·.2)

/-- The directory with this at a place, or with nothing there. -/
def put (p : Place) (f : Option File) (d : Directory) : Directory :=
  { d with files := (f.map (p, ·)).toList ++ d.files.filter (·.1 ≠ p) }

/-- What stands at the end of a path. -/
def look (path : String) (d : Directory) : Option File :=
  match d.route path with
  | .to p => d.standing p
  | .folder => some .folder
  | _ => none

/-- What is seen at the end of a path. Who cannot look sees nothing. -/
def seen (path : String) (fault : Option IoError) (d : Directory) : Option File :=
  if fault.isSome then none else d.look path

/-- Why a path that goes on beyond a place leads nowhere. -/
def astray (p : Place) (d : Directory) : IoError :=
  if (d.standing p).isSome then notFolder else notFound

/-- The place for a new file, or why there is none. A path that ends in a slash has no room for one. -/
def vacancy (path : String) (d : Directory) : Except IoError Place :=
  match d.route path with
  | .to p => if (d.standing p).isSome then .error inUse else .ok p
  | .folder => .error inUse
  | .slashed p => .error (if (d.standing p).isSome then inUse else notFound)
  | .beyond p => .error (d.astray p)
  | .nowhere => .error notFound

/-- Removes the socket at a path. -/
def clear (path : String) (d : Directory) : Directory :=
  match d.route path with
  | .to p => d.put p none
  | _ => d

/-- The directory with a new socket at a place. -/
def withSocket (p : Place) (mode : Nat) (d : Directory) : Directory :=
  { d.put p (some (.socket d.nextId mode)) with nextId := d.nextId + 1 }

/-- Gives the socket at a path a mode. -/
def setMode (path : String) (mode : Nat) (d : Directory) : Directory :=
  match d.route path, d.look path with
  | .to p, some (.socket id _) => d.put p (some (.socket id (mode % 0o10000)))
  | _, _ => d

/-! ## Listeners -/

/-- Makes a socket at a path where nothing stands, and listens there; gives the number of the socket. -/
def create (path : String) (faults : Faults) (d : Directory) : Except IoError Nat × Directory :=
  match faults.socket <|> unusable? path <|> faults.make, d.vacancy path with
  | some e, _ | none, .error e => (.error e, d)
  | none, .ok p => (faults.listen.elim (.ok d.nextId) .error, d.withSocket p d.freshMode)

/-- Makes a socket at a path where nothing stands, and gives its file a mode. A file that cannot be
given its mode is removed. -/
def establish (path : String) (mode : Nat) (faults : Faults) (d : Directory) :
    Except IoError SocketFile × Directory :=
  match d.create path faults, faults.setMode with
  | (.error e, d), _ => (.error e, d)
  | (.ok _, d), some e => (.error e, if faults.undo.isSome then d else d.clear path)
  | (.ok id, d), none =>
    let d := d.setMode path mode
    (.ok ⟨path, id, (d.seen path faults.identify).bind File.number?⟩, d)

/-- Binds a listener to a path and gives its file a mode. -/
def bind (path : String) (mode : Nat) (d : Directory) (faults : Faults := {}) :
    Except EndpointError SocketFile × Directory :=
  let named (r : Except IoError SocketFile × Directory) :=
    (r.1.mapError (.bind (Endpoint.unix path).text), r.2)
  if pathLimit ≤ path.utf8ByteSize then
    (.error (.pathTooLong path path.utf8ByteSize pathLimit), d)
  else
    match d.seen path faults.look, faults.remove with
    | none, _ => named (d.establish path mode faults)
    | some (.socket _ _), some e => named (.error e, d)
    | some (.socket _ _), none => named ((d.clear path).establish path mode faults)
    | some _, _ => named (.error occupied, d)

/-- A listener goes. -/
def release (s : SocketFile) (d : Directory) (faults : Faults := {}) : Directory :=
  match s.identity, d.seen s.path faults.look, faults.remove with
  | some own, some (.socket id _), none => if id = own then d.clear s.path else d
  | _, _, _ => d

/-! ## Other users of the directory -/

/-- Makes a regular file. -/
def touch (path : String) (d : Directory) : Bool × Directory :=
  match d.route path with
  | .to p =>
    match d.standing p with
    | none | some .regular => (true, d.put p (some .regular))
    | _ => (false, d)
  | _ => (false, d)

def unlink (path : String) (d : Directory) : Bool × Directory :=
  match d.look path with
  | none | some .folder => (false, d)
  | _ => (true, d.clear path)

/-- Connects to whoever listens at a path, with data to be read once the connection is accepted. -/
def connect (path : String) (data : Bytes) (d : Directory) : Except EndpointError Unit × Directory :=
  let fail e := (.error (.connect (Endpoint.unix path).text e), d)
  match unusable? path, d.route path with
  | some e, _ => fail e
  | none, .nowhere => fail (if path.isEmpty then unnamed else notFound)
  | none, .folder => fail refused
  | none, .slashed p | none, .beyond p => fail (d.astray p)
  | none, .to p =>
    match d.standing p with
    | some (.socket id _) => (.ok (), { d with waiting := d.waiting ++ [(id, data)] })
    | some _ => fail refused
    | none => fail notFound

/-- Binds a listener that goes at once. -/
def listen (path : String) (d : Directory) : Except EndpointError SocketFile × Directory :=
  match d.bind path SocketFile.defaultMode with
  | (.ok s, d) => (.ok s, d.release s)
  | r => r

/-- Accepts the one who has waited longest at a listener; gives the data that comes. -/
def accept (d : Directory) (s : SocketFile) : Option (Bytes × Directory) :=
  (d.waiting.lookup s.id).map fun data =>
    (data, { d with waiting := d.waiting.eraseP (·.1 = s.id) })

end Directory
end FrameFeed
