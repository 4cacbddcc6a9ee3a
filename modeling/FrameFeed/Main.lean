import FrameFeed.Command.Run
/-!
# The program

The command line comes from the outside, as do the variables; what is printed goes there. Endpoints
are beyond what this program reaches, so a command that needs one reports that it is not supported.
-/
namespace FrameFeed

/-- The variables that commands look at. -/
def variableNames : List String :=
  [Settings.addressKey, Settings.portKey, Settings.pipelineKey, Settings.widthKey, Settings.heightKey,
    Settings.frameTimeoutKey, "FRAMEWIRE_LOG_LEVEL"]

/-- Carries out an invocation where no endpoint can be reached. -/
def offline (i : Invocation) (format : Format) : Outcome :=
  let unsupported (e : Endpoint) : EndpointError := .unsupported e.text
  let outcome := (i.command.run (fun s =>
    (.error (Client.connectFault s.endpoint (unsupported s.endpoint)) :
      Except FrameError (Client Connection))) format).1
  match i.command, outcome.failure with
  | .serve o, none =>
    let e := Settings.join o.address o.portNumber
    .failed (.ofEndpoint "bind failed" (unsupported e))
  | _, _ => outcome

/-- The exit code of a refused command line. -/
def Refusal.code : Refusal → Nat
  | help | version => 0
  | _ => 2

end FrameFeed

open FrameFeed in
def main (args : List String) : IO UInt32 := do
  let vars ← variableNames.mapM fun name => return (name, ← IO.getEnv name)
  match Invocation.parse (fun name => (vars.find? (·.1 = name)).bind (·.2)) args with
  | .error .version => IO.println Command.versionText; return 0
  | .error e => IO.eprintln e.name; return e.code.toUInt32
  | .ok i =>
    let format := i.format.getD (if ← (← IO.getStdout).isTty then .table else .json)
    let outcome := offline i format
    IO.print outcome.output
    if let some f := outcome.failure then IO.eprint (Outcome.report format f)
    return outcome.code.toUInt32
