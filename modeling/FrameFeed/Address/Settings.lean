import FrameFeed.Address.Endpoint
import FrameFeed.Frame.Camera
import FrameFeed.Frame.Error
import FrameFeed.Wire.Message
/-!
# Settings

Where a client connects, where a server listens and what a producer renders, with the variables that
override the defaults. A variable that is set and cannot be read is an error. An address beginning
with `unix:` is the path of a socket file, and the number beside it is not used.
-/
namespace FrameFeed

/-- The value of each variable that is set. -/
abbrev Variables := String → Option String

namespace Settings

/-- The reading of a variable, if it is set. -/
def number? (vars : Variables) (key : String) (limit : Nat) : Except FrameError (Option Nat) :=
  match vars key with
  | none => .ok none
  | some raw =>
    match Decimal.unsigned? limit (Text.trim raw) with
    | some n => .ok (some n)
    | none => .error (.invalidParameter (key ++ "=" ++ Text.quote raw ++ " is not valid"))

def addressKey : String := "FRAMEWIRE_SERVER_ADDRESS"
def portKey : String := "FRAMEWIRE_SERVER_PORT"
def readKey : String := "FRAMEWIRE_READ_TIMEOUT_MS"
def writeKey : String := "FRAMEWIRE_WRITE_TIMEOUT_MS"
def pipelineKey : String := "FRAMEWIRE_PIPELINE"
def widthKey : String := "FRAMEWIRE_WIDTH"
def heightKey : String := "FRAMEWIRE_HEIGHT"
def frameTimeoutKey : String := "FRAMEWIRE_FRAME_TIMEOUT_MS"

/-- Zero turns a deadline off. -/
def deadline (ms : Nat) : Option Nat := if 0 < ms then some ms else none

def join (address : String) (portNumber : UInt16) : Endpoint :=
  match Text.after? Endpoint.unixMark.toList address.toList with
  | some path => .unix (.ofList path)
  | none => .tcp address portNumber

def split : Endpoint → String × UInt16
  | .tcp host number => (host, number)
  | .unix path => (Endpoint.unixMark ++ path, 0)

end Settings

open Settings

/-! ## Clients -/

/-- Where a client connects and how many milliseconds it waits. -/
structure ClientSettings where
  address : String := "127.0.0.1"
  portNumber : UInt16 := 51234
  readTimeout : Option Nat := some 5000
  writeTimeout : Option Nat := some 5000
  maxPayload : Nat := Message.defaultLimit
deriving DecidableEq, Repr

namespace ClientSettings

def ofEndpoint (e : Endpoint) : ClientSettings :=
  { address := (split e).1, portNumber := (split e).2 }

def ofVariables (vars : Variables) : Except FrameError ClientSettings := do
  let s : ClientSettings := {}
  let address := match vars addressKey with
    | some a => if Text.allBlank a then s.address else Text.trim a
    | none => s.address
  let portNumber ← number? vars portKey 65535
  let read ← number? vars readKey 0xffffffffffffffff
  let write ← number? vars writeKey 0xffffffffffffffff
  return { s with
    address
    portNumber := (portNumber.map Nat.toUInt16).getD s.portNumber
    readTimeout := (read.map deadline).getD s.readTimeout
    writeTimeout := (write.map deadline).getD s.writeTimeout }

def endpoint (s : ClientSettings) : Endpoint := join s.address s.portNumber

/-- The one camera behind these settings. -/
def camera (s : ClientSettings) : Camera := ⟨"0", "Input", "framewire", s.endpoint.text⟩

end ClientSettings

/-! ## Servers -/

/-- Where a server listens and after how many milliseconds it gives a session up. -/
structure ServerSettings where
  address : String := "127.0.0.1"
  portNumber : UInt16 := 51234
  idleTimeout : Option Nat := none
  writeTimeout : Option Nat := some 5000
  maxPayload : Nat := Message.defaultLimit
deriving DecidableEq, Repr

namespace ServerSettings

def ofVariables (vars : Variables) : Except FrameError ServerSettings := do
  let client ← ClientSettings.ofVariables vars
  let s : ServerSettings := {}
  return { s with
    address := client.address
    portNumber := client.portNumber
    idleTimeout := if (vars readKey).isSome then client.readTimeout else s.idleTimeout
    writeTimeout := if (vars writeKey).isSome then client.writeTimeout else s.writeTimeout }

def endpoint (s : ServerSettings) : Endpoint := join s.address s.portNumber

end ServerSettings

/-! ## Producers -/

/-- What a producer renders, and how many milliseconds a consumer waits for it. -/
structure PipelineSettings where
  pipeline : String
  width : UInt32 := 640
  height : UInt32 := 480
  frameTimeout : Nat := 1000
deriving DecidableEq, Repr

namespace PipelineSettings

def ofVariables (vars : Variables) : Except FrameError PipelineSettings := do
  let pipeline ← match vars pipelineKey with
    | some p => if Text.allBlank p then throw (.invalidParameter (pipelineKey ++ " is not set")) else pure p
    | none => throw (.invalidParameter (pipelineKey ++ " is not set"))
  let s : PipelineSettings := { pipeline }
  let width := ((← number? vars widthKey 0xffffffff).map Nat.toUInt32).getD s.width
  let height := ((← number? vars heightKey 0xffffffff).map Nat.toUInt32).getD s.height
  let frameTimeout := (← number? vars frameTimeoutKey 0xffffffffffffffff).getD s.frameTimeout
  if width = 0 || height = 0 then
    throw (.invalidParameter s!"frame size must be non-zero, got {width}x{height}")
  return { s with width, height, frameTimeout }

end PipelineSettings
end FrameFeed
