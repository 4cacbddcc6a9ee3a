import FrameFeed.Address.Error
import FrameFeed.Decimal.Digits
import FrameFeed.Text.Blank
import FrameFeed.Text.Parts
/-!
# Endpoints

Where a server listens: a host with a number, or the path of a socket file. `text` writes an
endpoint, a host with colons in brackets, and `parse` reads it back.
-/
namespace FrameFeed

inductive Endpoint where
  | tcp (host : String) (number : UInt16)
  | unix (path : String)
deriving DecidableEq, Repr

namespace Endpoint

/-- A host without the brackets around it. -/
def unbracket (host : List Char) : List Char :=
  ((host.dropWhile (· = '[')).reverse.dropWhile (· = ']')).reverse

def unixMark : String := "unix:"

def text : Endpoint → String
  | tcp host number =>
    if host.toList.contains ':' then s!"[{host}]:{number}" else s!"{host}:{number}"
  | unix path => unixMark ++ path

def parse (s : String) : Except EndpointError Endpoint :=
  let s := Text.trim s
  match Text.after? unixMark.toList s.toList with
  | some [] => .error (.invalid s)
  | some path => .ok (unix (.ofList path))
  | none =>
    match Text.splitLast? ':' s.toList with
    | none => .error (.invalid s)
    | some (host, number) =>
      if (unbracket host).isEmpty then .error (.invalid s)
      else
        match Decimal.unsigned? 65535 (.ofList number) with
        | none => .error (.invalid s)
        | some n => .ok (tcp (.ofList (unbracket host)) n.toUInt16)

/-- The name of the kind of connection. -/
def transport : Endpoint → String
  | tcp _ _ => "tcp"
  | unix _ => "unix-domain-socket"

end Endpoint
end FrameFeed
