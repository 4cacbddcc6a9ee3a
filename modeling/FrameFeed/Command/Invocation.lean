import FrameFeed.Command.Line
import FrameFeed.Command.Output
import FrameFeed.Feed.Pattern
/-!
# Commands

The commands, the options of each with their defaults and variables, and how a command line names
them (`Invocation.parse`).
-/
namespace FrameFeed

/-- How a command reaches a server. -/
structure Reach where
  address : String
  portNumber : UInt16
  /-- The deadline as it was written. -/
  timeout : String
deriving DecidableEq, Repr

/-- What a server is to serve, and where. -/
structure ServeOptions where
  address : String
  portNumber : UInt16
  metadata : Metadata
  pattern : Pattern
  frames : Option Nat
  handoff : Bool
  pipeline : Option String
  /-- Milliseconds. -/
  frameTimeout : Nat
  /-- The deadline as it was written. -/
  idleTimeout : Option String
deriving DecidableEq, Repr

inductive Command where
  | serve (o : ServeOptions)
  | metadata (r : Reach)
  | grab (r : Reach) (count retries : Nat)
  | execute (r : Reach) (action : String)
  | result (r : Reach) (body : String)
  | discover (r : Reach)
  | version (extended : Bool)
deriving DecidableEq, Repr

/-- A command and the format of its output, if one was asked for. -/
structure Invocation where
  format : Option Format
  command : Command
deriving DecidableEq, Repr

namespace Invocation

open Opt Settings

def word16 : String → Option Nat := signed? 0xffff
def word32 : String → Option Nat := signed? 0xffffffff
def word64 : String → Option Nat := Decimal.unsigned? 0xffffffffffffffff

/-! ## Options -/

def logFormats : List (String × Unit) := [("text", ()), ("json", ())]

def logLevels : List (String × Unit) :=
  ["error", "warn", "info", "debug", "trace"].map (·, ())

def helpOption : Opt := { name := "help", role := .help, letter := some 'h' }

/-- The options of every level. -/
def common : List Opt :=
  [{ name := "format", check := oneOf Format.spellings },
    { name := "log-format", check := oneOf logFormats },
    { name := "log-level", check := oneOf logLevels, variableName := some "FRAMEWIRE_LOG_LEVEL" }]

def reachOptions : List Opt :=
  [{ name := "address", variableName := some addressKey },
    { name := "port", variableName := some portKey, check := number word16 },
    { name := "timeout" }]

def serveOptions : List Opt :=
  [{ name := "address", variableName := some addressKey },
    { name := "port", variableName := some portKey, check := number word16 },
    { name := "width", variableName := some widthKey, check := number word32 },
    { name := "height", variableName := some heightKey, check := number word32 },
    { name := "color-space", check := readBy ColorSpace.ofName? },
    { name := "layout", check := readBy Layout.ofName? },
    { name := "data-type", check := readBy ElementType.ofName? },
    { name := "pattern", check := readBy Pattern.parse, conflicts := ["handoff"] },
    { name := "frames", check := number word64, conflicts := ["handoff"] },
    { name := "handoff", role := .flag, needs := ["pipeline"] },
    { name := "pipeline", variableName := some pipelineKey },
    { name := "frame-timeout-ms", variableName := some frameTimeoutKey, check := number word64 },
    { name := "idle-timeout" }]

/-- The options of a command, beside those of every level. -/
def optionsOf : String → List Opt
  | "serve" => serveOptions
  | "grab" => reachOptions ++
    [{ name := "count", letter := some 'n', check := number word64 },
      { name := "retries", check := number word32 }]
  | "execute" => reachOptions ++ [{ name := "action", role := .operand, required := true }]
  | "result" => reachOptions ++ [{ name := "json", required := true }]
  | "version" => [{ name := "extended", role := .flag }]
  | _ => reachOptions

def commandNames : List String :=
  ["serve", "metadata", "grab", "execute", "result", "discover", "version"]

def top : Level where
  options := common ++ [helpOption, { name := "version", role := .version, letter := some 'V' }]
  commands := commandNames ++ ["help"]

def levelOf (command : String) : Level where
  options := optionsOf command ++ common ++ [helpOption]

/-! ## Values -/

/-- A number that was checked before, or its default. -/
def numberOf (g : Given) (name : String) (read : String → Option Nat) (default : Nat) : Nat :=
  ((g.value? name).bind read).getD default

/-- A value that was checked before, or its default. -/
def valueOf {ε α : Type} (g : Given) (name : String) (read : String → Except ε α) (default : α) : α :=
  match (g.value? name).map read with
  | some (.ok v) => v
  | _ => default

def reach (g : Given) : Reach where
  address := (g.value? "address").getD ({} : ClientSettings).address
  portNumber :=
    (numberOf g "port" word16 ({} : ClientSettings).portNumber.toNat).toUInt16
  timeout := (g.value? "timeout").getD "5s"

def serveOptionsOf (g : Given) : ServeOptions where
  address := (reach g).address
  portNumber := (reach g).portNumber
  metadata :=
    { width := (numberOf g "width" word32 640).toUInt32
      height := (numberOf g "height" word32 480).toUInt32
      colorSpace := valueOf g "color-space" ColorSpace.ofName? .rgb
      layout := valueOf g "layout" Layout.ofName? .planar
      elementType := valueOf g "data-type" ElementType.ofName? .uint8 }
  pattern := valueOf g "pattern" Pattern.parse .ramp
  frames := (g.value? "frames").bind word64
  handoff := g.has "handoff"
  pipeline := g.value? "pipeline"
  frameTimeout := numberOf g "frame-timeout-ms" word64 1000
  idleTimeout := g.value? "idle-timeout"

/-- The command of a name with the values given. -/
def commandOf (name : String) (g : Given) : Command :=
  match name with
  | "serve" => .serve (serveOptionsOf g)
  | "metadata" => .metadata (reach g)
  | "grab" => .grab (reach g) (numberOf g "count" word64 1) (numberOf g "retries" word32 3)
  | "execute" => .execute (reach g) ((g.value? "action").getD "")
  | "result" => .result (reach g) ((g.value? "json").getD "")
  | "discover" => .discover (reach g)
  | _ => .version (g.has "extended")

def formatOf (g : Given) : Option Format :=
  (g.value? "format").bind fun v => (Format.spellings.find? (·.1 = v)).map (·.2)

/-! ## Command lines -/

/-- Help on a command, or on all. -/
def help : List String → Refusal
  | [] => .help
  | [name] => if top.commands.contains name then .help else .unknownCommand
  | _ => .unknownCommand

/-- The invocation that a command line stands for. What is wrong after the command is reported before
what is wrong with the options in front of it. -/
def parse (vars : Variables) (words : List String) : Except Refusal Invocation := do
  match ← top.read words {} with
  | (r, none) =>
    let g ← top.fillAll vars r
    throw (if g.isEmpty then .helpInstead else .missingCommand)
  | (r, some (name, rest)) =>
    if name = "help" then throw (help rest)
    let level := levelOf name
    let inner ← level.read rest {}
    let given ← level.finish vars inner.1
    let outer ← top.finish vars r
    return { format := (formatOf given).orElse fun _ => formatOf outer, command := commandOf name given }

end Invocation
end FrameFeed
