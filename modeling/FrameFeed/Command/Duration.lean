import FrameFeed.Command.Failure
import FrameFeed.Decimal.Digits
import FrameFeed.Text.Blank
import FrameFeed.Text.Parts
/-! # Durations on a command line -/
namespace FrameFeed.Duration

/-- A text without an ending. -/
def before? (ending s : String) : Option String :=
  (Text.after? ending.toList.reverse s.toList.reverse).map fun cs => .ofList cs.reverse

/-- Milliseconds of a positive number of seconds, or of milliseconds if it says so: `5s`, `5`,
`500ms`. -/
def parse (s : String) : Except Failure Nat :=
  let s := Text.trim s
  if s.isEmpty then .error ⟨Failure.usage, "timeout must not be empty"⟩
  else
    let (number, unit) := match before? "ms" s with
      | some number => (number, 1)
      | none => ((before? "s" s).getD s, 1000)
    match Decimal.unsigned? 0xffffffffffffffff (Text.trim number) with
    | none => .error ⟨Failure.usage, "invalid timeout value: " ++ s⟩
    | some 0 => .error ⟨Failure.usage, "timeout must be greater than zero"⟩
    | some n => .ok (n * unit)

end FrameFeed.Duration
