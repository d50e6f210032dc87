import MazeRobot.Config
import MazeRobot.Explanation
import MazeRobot.Numeral

/-!
# Command-line options

Arguments come in pairs of a flag and its value, behind the name of the
program. A later pair overrides an earlier one, but every pair has to be in
order. The leftmost argument that is not decides the fault: first it has to be
a flag, then there has to be a value, and then the flag has to be known and
the value to fit it.
-/

namespace MazeRobot

/-- What the program is asked to do. -/
inductive Mode where
  /-- Print the catalog. -/
  | list
  /-- Run a script and print the report as JSON. -/
  | headless
  /-- Run a script and show the run as it goes. -/
  | play
  deriving DecidableEq, Repr

namespace Mode

/-- The name of a mode. -/
def name : Mode → String
  | list => "List"
  | headless => "Headless"
  | play => "Play"

/-- The mode that a word in lower case stands for. -/
def ofWord? (word : String) : Option Mode :=
  if word = "list" then some list
  else if word = "headless" ∨ word = "json" then some headless
  else if word = "play" ∨ word = "realtime" then some play
  else none

end Mode

/-- What the arguments say. -/
structure Options where
  /-- What to do. -/
  mode : Mode := .play
  /-- Which puzzle to take. -/
  puzzle : Option String := none
  /-- The path of the script. -/
  script : Option String := none
  /-- The path of the catalog. -/
  catalog : Option String := none
  /-- The path of the configuration. -/
  config : Option String := none
  /-- Which team is playing. -/
  team : Option String := none
  /-- The path of the store. -/
  store : Option String := none
  /-- What takes the place of configured values. -/
  overrides : Overrides := {}
  deriving DecidableEq, Repr

namespace Options

/-- Why arguments make no options. -/
inductive Fault where
  /-- A flag was due. -/
  | notFlag (argument : String)
  /-- The last flag has no value. -/
  | noValue (flag : String)
  /-- No mode. -/
  | badMode (word : String)
  /-- No number that fits the flag. -/
  | badNumber (name value : String) (fault : Numeral.Fault)
  /-- No such flag. -/
  | unknownFlag (flag : String)
  deriving DecidableEq, Repr

/-- What is told about a fault. -/
def Fault.explanation : Fault → Explanation
  | notFlag argument =>
    .plain s!"Unexpected argument '{argument}'. Flags take the form --name value."
  | noValue flag => .plain s!"Expected a value after '{flag}'"
  | badMode word => .plain s!"Invalid mode '{word}'. Use list, headless or play."
  | badNumber name value fault => ⟨s!"Invalid {name} '{value}'", [.plain fault.message]⟩
  | unknownFlag flag =>
    .plain (s!"Unknown flag '{flag}'. Supported flags: --mode, --puzzle, --script, --catalog, " ++
      "--config, --team, --store, --delay, --max-steps, --max-ticks.")

/-- The name of a flag, if the argument is a flag. -/
def flagName? (argument : String) : Option String :=
  match argument.toList with
  | '-' :: '-' :: name => some (String.ofList name)
  | _ => none

/-- A natural number below two to the power `bits`, as the value of a flag. -/
def number (bits : Nat) (name value : String) : Except Fault Nat :=
  match Numeral.natural (Nat.pow 2 bits - 1) value.toList with
  | .error fault => .error (.badNumber name value fault)
  | .ok n => .ok n

/-- The options with one pair of a flag and its value taken in. -/
def set (o : Options) (name value : String) : Except Fault Options :=
  if name = "mode" then
    let word := value.map Char.toLower
    match Mode.ofWord? word with
    | some mode => .ok { o with mode := mode }
    | none => .error (.badMode word)
  else if name = "puzzle" then .ok { o with puzzle := some value }
  else if name = "script" then .ok { o with script := some value }
  else if name = "catalog" then .ok { o with catalog := some value }
  else if name = "config" then .ok { o with config := some value }
  else if name = "team" then .ok { o with team := some value }
  else if name = "store" then .ok { o with store := some value }
  else if name = "delay" then
    match number 64 name value with
    | .error fault => .error fault
    | .ok n => .ok { o with overrides := { o.overrides with delay := some (.ofNat n) } }
  else if name = "max-steps" then
    match number 32 name value with
    | .error fault => .error fault
    | .ok n => .ok { o with overrides := { o.overrides with maxSteps := some (.ofNat n) } }
  else if name = "max-ticks" then
    match number 32 name value with
    | .error fault => .error fault
    | .ok n => .ok { o with overrides := { o.overrides with maxTicks := some (.ofNat n) } }
  else .error (.unknownFlag ("--" ++ name))

/-- The options with pairs taken in from left to right. -/
def setAll : Options → List String → Except Fault Options
  | o, [] => .ok o
  | _, [flag] =>
    match flagName? flag with
    | none => .error (.notFlag flag)
    | some _ => .error (.noValue flag)
  | o, flag :: value :: rest =>
    match flagName? flag with
    | none => .error (.notFlag flag)
    | some name =>
      match o.set name value with
      | .error fault => .error fault
      | .ok o => setAll o rest

/-- The options of a command line, of which the first argument is the name of
the program. -/
def ofArguments (arguments : List String) : Except Fault Options :=
  setAll {} (arguments.drop 1)

end Options

end MazeRobot
