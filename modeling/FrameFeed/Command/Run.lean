import FrameFeed.Command.Grab
import FrameFeed.Command.Serve
/-!
# Carrying out commands

All commands but `serve` are carried out at once, given a way to open clients. `serve` is only
prepared: what is wrong with its options comes to light, and the rest is left to whoever listens.
-/
namespace FrameFeed

/-- What a command printed, and why it failed, if it did. A command that crashed has done neither. -/
structure Outcome where
  output : String := ""
  failure : Option Failure := none
  crashed : Bool := false
deriving DecidableEq, Repr

namespace Outcome

def printed (output : String) : Outcome := { output }

def failed (f : Failure) : Outcome := { failure := some f }

def crash : Outcome := { crashed := true }

/-- The code with which the process ends. -/
def code (o : Outcome) : Nat :=
  match o.failure with
  | none => if o.crashed then 101 else 0
  | some f => f.code

/-- How a failure is reported. -/
def report (format : Format) (f : Failure) : String :=
  match format with
  | .json =>
    Output.jsonLine (Json.obj (Json.ofMembers
      [("error", .str f.message), ("code", .num (.int f.code))])).print
  | _ => Output.line ("error: " ++ f.message)

end Outcome

namespace Command

variable {σ : Type}

def versionText : String := "framewire 0.1.0"

/-- What is known of this program. -/
def about : Format → String
  | .json => Output.jsonLine (Json.printRecord
      [("name", .str "framewire"), ("version", .str "0.1.0"), ("target", .str "unknown"),
        ("profile", .str "unknown"), ("transports", .arr [.str "tcp", .str "unix"]),
        ("default_endpoint", .str ({} : ClientSettings).endpoint.text)])
  | _ => String.join (["name: framewire", "version: 0.1.0", "target: unknown", "profile: unknown",
      "transports: tcp, unix", "default endpoint: " ++ ({} : ClientSettings).endpoint.text].map
        Output.line)

/-- The body of a result given as a document. -/
def resultBody (text : String) : Except Failure Json.Members :=
  match Json.parse (Bytes.ofText text) with
  | .ok (.obj body) => .ok body
  | .ok _ => .error ⟨Failure.badData, "result body must be a JSON object"⟩
  | .error e => .error ⟨Failure.badData, "invalid JSON: " ++ e.message⟩

def clientSettings (r : Reach) : Except Failure ClientSettings := do
  let timeout ← Duration.parse r.timeout
  return { address := r.address, portNumber := r.portNumber, readTimeout := some timeout,
           writeTimeout := some timeout }

/-- Opens a client and hands it to a command; gives also the client in its last state. -/
def withClient (connect : ClientSettings → Except FrameError (Client σ)) (r : Reach)
    (use : Client σ → Outcome × Client σ) : Outcome × Option (Client σ) :=
  match clientSettings r with
  | .error f => (.failed f, none)
  | .ok settings =>
    match connect settings with
    | .error e => (.failed (.ofFrame "connect failed" e), none)
    | .ok c =>
      let (o, c) := use c
      (o, some c)

/-- Carries out a command with a way to open clients. -/
def run [Channel σ] (connect : ClientSettings → Except FrameError (Client σ)) (format : Format)
    (command : Command) : Outcome × Option (Client σ) :=
  match command with
  | metadata r => withClient connect r fun c =>
    match c.known with
    | (.ok m, c) => (.printed (Output.metadata m format), c)
    | (.error e, c) => (.failed (.ofFrame "metadata request failed" e), c)
  | grab r count retries => withClient connect r fun c =>
    match Grab.run count retries c with
    | (none, c) => (.crash, c)
    | (some (.ok fs), c) => (.printed (Output.frames fs format), c)
    | (some (.error f), c) => (.failed f, c)
  | execute r action => withClient connect r fun c =>
    match c.execute action with
    | (.ok (), c) => (.printed (Output.status "execute" (some action) format), c)
    | (.error e, c) => (.failed (.ofFrame ("execute " ++ Text.quote action ++ " failed") e), c)
  | result r body =>
    match resultBody body with
    | .error f => (.failed f, none)
    | .ok body => withClient connect r fun c =>
      match c.send body with
      | (.ok (), c) => (.printed (Output.status "result" none format), c)
      | (.error e, c) => (.failed (.ofFrame "result request failed" e), c)
  | discover r =>
    match clientSettings r with
    | .error f => (.failed f, none)
    | .ok s => (.printed (Output.cameras [s.camera] format), none)
  | version extended =>
    (.printed (if extended then about format else Output.line versionText), none)
  | serve o =>
    match Serve.server o with
    | .error f => (.failed f, none)
    | .ok _ => ({}, none)

end Command
end FrameFeed
