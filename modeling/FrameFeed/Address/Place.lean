/-!
# Places

Where a path leads. Which places are folders, where the working directory is and what links there are is for the
system to say, so that a directory holds the routes of its paths as a part of its own (`Directory.leads`). A system
with folders and no links is `Route.among`: relative paths start in the working directory, absolute ones at the root; a
dot and an empty part stay where they are, two dots lead up, and a path goes on only through folders.
-/
namespace FrameFeed

/-- A place among files: so many folders above the working directory, or at the root, and then down
along names, the last of them first. -/
structure Place where
  above : Option Nat
  down : List String
deriving DecidableEq, Repr

/-- Where a path leads. A link at its end is not followed. -/
inductive Route where
  /-- A place for a file, which may stand there or not. -/
  | to (p : Place)
  | folder
  /-- A place that is no folder, with a slash behind it. -/
  | slashed (p : Place)
  /-- On beyond a place that is no folder. -/
  | beyond (p : Place)
  /-- Nowhere, since no file has such a name. -/
  | nowhere
deriving DecidableEq, Repr

namespace Place

def here : Place := ⟨some 0, []⟩
def root : Place := ⟨none, []⟩

def up (p : Place) : Place :=
  match p.down with
  | [] => { p with above := p.above.map (· + 1) }
  | _ :: names => { p with down := names }

def enter (name : String) (p : Place) : Place := { p with down := name :: p.down }

/-- The length in bytes of the longest name. -/
def nameLimit : Nat := 255

/-- The length in bytes of the longest path. -/
def pathLimit : Nat := 4095

/-- Follows the parts of a path from a place, among these folders. -/
def follow (folders : Place → Bool) (p : Place) : List String → Route
  | [] => if folders p then .folder else .to p
  | part :: rest =>
    if !folders p then if (part :: rest).all (· = "") then .slashed p else .beyond p
    else if part = "" ∨ part = "." then p.follow folders rest
    else if part = ".." then p.up.follow folders rest
    else if nameLimit < part.utf8ByteSize then .nowhere
    else (p.enter part).follow folders rest

/-- The folders at the root of every system. -/
def commonFolders : List String :=
  ["bin", "boot", "dev", "etc", "home", "lib", "lib64", "media", "mnt", "opt", "proc", "root", "run",
   "sbin", "srv", "sys", "tmp", "usr", "var"]

/-- The folders of a system in which nobody made one: the working directory, those above it and the common ones. -/
def isCommonFolder (p : Place) : Bool :=
  match p.above, p.down with
  | _, [] => true
  | none, [name] => commonFolders.contains name
  | _, _ => false

end Place

namespace Route

/-- Where a path leads in a system with these folders and no links, if no path from the root leads to the working
directory. -/
def among (folders : Place → Bool) (path : String) : Route :=
  if Place.pathLimit < path.utf8ByteSize then .nowhere
  else
    (if path.toList.head? = some '/' then Place.root else Place.here).follow folders
      ((path.toList.splitOn '/').map String.ofList)

end Route
end FrameFeed
