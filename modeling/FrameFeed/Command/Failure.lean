import FrameFeed.Exchange.Error
/-!
# Why a command fails

A failure has a code, with which the process ends, and a message. The code tells the cause: what was
asked for is wrong, the server cannot be reached, a deadline passed, and so on.
-/
namespace FrameFeed

structure Failure where
  code : Nat
  message : String
deriving DecidableEq, Repr

namespace Failure

def general : Nat := 1
def unreachable : Nat := 3
def denied : Nat := 50
def badData : Nat := 60
def usage : Nat := 64
def deadline : Nat := 124
def internal : Nat := 125

/-- A failure with what was being done before its text. -/
def during (context : String) (code : Nat) (text : String) : Failure := ⟨code, context ++ ": " ++ text⟩

def ofIo (context : String) (e : IoError) : Failure :=
  let code := match e.kind with
    | .permissionDenied => denied
    | .timedOut | .wouldBlock => deadline
    | .connectionRefused | .addrInUse => unreachable
    | _ => internal
  during context code e.text

def ofEndpoint (context : String) (e : EndpointError) : Failure :=
  match e.cause? with
  | some cause => ofIo context cause
  | none =>
    let code := match e with
      | .invalid _ => usage
      | _ => unreachable
    during context code e.message

def ofWire (context : String) (e : WireError) : Failure :=
  match e with
  | .io cause => ofIo context cause
  | .closed => during context unreachable e.message
  | _ => during context badData e.message

def ofFrame (context : String) (e : FrameError) : Failure :=
  let code := match e with
    | .timeout => deadline
    | .invalidParameter _ | .unsupportedAction _ => usage
    | .formatUnsupported _ | .insufficientCapacity _ _ => badData
    | .faulted _ => unreachable
    | .unknown _ => internal
    | _ => general
  during context code e.message

def ofService (context : String) (e : ServiceError) : Failure :=
  match e with
  | .transport cause => ofEndpoint context cause
  | .wire cause => ofWire context cause
  | .source cause => ofFrame context cause
  | _ => during context badData e.message

end Failure
end FrameFeed
