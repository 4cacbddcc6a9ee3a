import FrameFeed.Address.Settings
/-!
# Reading a command line

A command line is a run of options, one command with options of its own, and operands. `Level` tells
what may stand at one of the two levels; `Level.read` takes up the words of a level, `Level.finish`
fills in variables and checks the options against each other.

A value is looked at only when the option after it is read, or at the end, so of two flaws the one
that comes to light first is reported.
-/
namespace FrameFeed

/-- Why a command line is not carried out. Being asked for help is one reason. -/
inductive Refusal where
  | help
  | version
  /-- Nothing was asked for, so help is given. -/
  | helpInstead
  | unknownCommand
  | missingCommand
  | unknownArgument
  /-- A value that is missing or not among the choices. -/
  | badChoice
  | badValue
  /-- A value for an option that takes none. -/
  | excessValue
  | conflict
  | missingArgument
deriving DecidableEq, Repr

namespace Refusal

def name : Refusal → String
  | help => "DisplayHelp"
  | version => "DisplayVersion"
  | helpInstead => "DisplayHelpOnMissingArgumentOrSubcommand"
  | unknownCommand => "InvalidSubcommand"
  | missingCommand => "MissingSubcommand"
  | unknownArgument => "UnknownArgument"
  | badChoice => "InvalidValue"
  | badValue => "ValueValidation"
  | excessValue => "TooManyValues"
  | conflict => "ArgumentConflict"
  | missingArgument => "MissingRequiredArgument"

end Refusal

/-- What an option is for. -/
inductive Role where
  | flag
  | value
  /-- A word without a name before it. -/
  | operand
  | help
  | version
deriving DecidableEq, Repr

structure Opt where
  name : String
  role : Role := .value
  letter : Option Char := none
  /-- The variable that stands in for the option. -/
  variableName : Option String := none
  /-- What is wrong with a value. -/
  check : String → Option Refusal := fun _ => none
  required : Bool := false
  conflicts : List String := []
  needs : List String := []

namespace Opt

/-- A check that a value is one of a few names. -/
def oneOf {α : Type} (spellings : List (String × α)) (v : String) : Option Refusal :=
  if spellings.any (·.1 = v) then none else some .badChoice

/-- A check that a value can be read. -/
def readBy {ε α : Type} (read : String → Except ε α) (v : String) : Option Refusal :=
  match read v with
  | .ok _ => none
  | .error _ => some .badValue

/-- A number that may carry a sign, and is not negative. -/
def signed? (limit : Nat) (v : String) : Option Nat :=
  match Text.after? ['-'] v.toList with
  | some (c :: cs) =>
    if c.isDigit then (Decimal.unsigned? limit (.ofList (c :: cs))).filter (· = 0) else none
  | _ => Decimal.unsigned? limit v

/-- A check that a value is a number as `read` reads it. -/
def number (read : String → Option Nat) (v : String) : Option Refusal :=
  match read v with
  | some _ => none
  | none => some .badValue

end Opt

/-- What may stand at one level of a command line. -/
structure Level where
  options : List Opt
  commands : List String := []

/-- The values given, by the names of their options. -/
abbrev Given := List (String × String)

/-- How far a level has been read. -/
structure Reading where
  given : Given := []
  /-- The option read last, with its value if that has come. -/
  pending : Option (Opt × Option String) := none
  /-- Only operands follow. -/
  operandsOnly : Bool := false

namespace Given

def value? (name : String) (g : Given) : Option String := (g.find? (·.1 = name)).map (·.2)

def has (name : String) (g : Given) : Bool := g.any (·.1 = name)

end Given

namespace Reading

/-- The option read last still waits for its value. -/
def awaits (r : Reading) : Bool :=
  !r.operandsOnly && match r.pending with
    | some (_, none) => true
    | _ => false

/-- Takes up the value of an option, which is given once at most. -/
def give (o : Opt) (v : String) (r : Reading) : Except Refusal Reading :=
  if Given.has o.name r.given then .error .conflict
  else
    match o.check v with
    | some e => .error e
    | none => .ok { r with given := r.given ++ [(o.name, v)] }

/-- Takes up the option read last. -/
def settle (r : Reading) : Except Refusal Reading :=
  match r.pending with
  | none => .ok r
  | some (_, none) => .error .badChoice
  | some (o, some v) => { r with pending := none }.give o v

/-- An option with its value attached. -/
def attached (o : Opt) (v : String) (r : Reading) : Except Refusal Reading := do
  (← r.settle).give o v

/-- An option whose value is the next word. -/
def await (o : Opt) (r : Reading) : Except Refusal Reading := do
  return { ← r.settle with pending := some (o, none) }

/-- An option that takes no value. -/
def flag (o : Opt) (r : Reading) : Except Refusal Reading := do
  let r ← r.settle
  match o.role with
  | .help => throw .help
  | .version => throw .version
  | _ => r.give o "true"

end Reading

namespace Level

/-- What stands after two dashes: a name, and a value after an equals sign. -/
def long (l : Level) (word : List Char) (r : Reading) : Except Refusal Reading :=
  let (name, value) := match Text.splitFirst? '=' word with
    | some (name, value) => (name, some (String.ofList value))
    | none => (word, none)
  match l.options.find? fun o => o.role ≠ .operand && o.name = .ofList name with
  | none => .error .unknownArgument
  | some o =>
    match o.role, value with
    | .value, some v => r.attached o v
    | .value, none => r.await o
    | _, some _ => .error .excessValue
    | _, none => r.flag o

/-- What stands after one dash: letters, the last of which may have a value behind it. -/
def letters (l : Level) : List Char → Reading → Except Refusal Reading
  | [], r => .ok r
  | c :: cs, r =>
    match l.options.find? (·.letter = some c) with
    | none => .error .unknownArgument
    | some o =>
      if o.role = .value then
        match cs with
        | [] => r.await o
        | '=' :: v => r.attached o (.ofList v)
        | v => r.attached o (.ofList v)
      else
        match r.flag o with
        | .ok r => l.letters cs r
        | .error e => .error e

/-- A word that is no option. -/
def operand (l : Level) (word : String) (r : Reading) : Except Refusal Reading :=
  let isOpen (o : Opt) : Bool :=
    o.role = .operand && !Given.has o.name r.given && !r.pending.any (·.1.name = o.name)
  match l.options.find? isOpen with
  | some o => r.settle.map fun r => { r with pending := some (o, some word) }
  | none =>
    if l.commands.isEmpty || r.operandsOnly && l.commands.contains word then .error .unknownArgument
    else .error .unknownCommand

/-- Takes up the words of a level, up to a command, if there is one, and the words after it. -/
def read (l : Level) : List String → Reading → Except Refusal (Reading × Option (String × List String))
  | [], r => .ok (r, none)
  | word :: words, r =>
    let next (step : Except Refusal Reading) :=
      match step with
      | .ok r => l.read words r
      | .error e => .error e
    if r.operandsOnly then next (l.operand word r)
    else if !r.awaits && l.commands.contains word then .ok (r, some (word, words))
    else
      match word.toList with
      | ['-', '-'] => l.read words { r with operandsOnly := true }
      | '-' :: '-' :: cs => next (l.long cs r)
      | '-' :: c :: cs => next (l.letters (c :: cs) r)
      | _ =>
        match r.pending with
        | some (o, none) => l.read words { r with pending := some (o, some word) }
        | _ => next (l.operand word r)

/-- Gives an option that is not given the value of its variable. -/
def fill (vars : Variables) (r : Reading) (o : Opt) : Except Refusal Reading :=
  match o.variableName.bind vars with
  | some v => if Given.has o.name r.given then .ok r else r.give o v
  | none => .ok r

/-- The options of a level that has been read, with their variables. -/
def fillAll (l : Level) (vars : Variables) (r : Reading) : Except Refusal Given := do
  return (← l.options.foldlM (fill vars) (← r.settle)).given

/-- Checks the options given against each other. -/
def checked (l : Level) (g : Given) : Except Refusal Given :=
  let given := l.options.filter fun o => Given.has o.name g
  if given.any fun o => o.conflicts.any (Given.has · g) then .error .conflict
  else if l.options.any fun o => o.required && !Given.has o.name g then .error .missingArgument
  else if given.any fun o => o.needs.any fun n => !Given.has n g then .error .missingArgument
  else .ok g

def finish (l : Level) (vars : Variables) (r : Reading) : Except Refusal Given := do
  l.checked (← l.fillAll vars r)

end Level
end FrameFeed
