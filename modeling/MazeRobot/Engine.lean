import MazeRobot.Config
import MazeRobot.Script.Behaviour
import MazeRobot.Script.Grammar.Script

/-!
# The engine

Runs the text of a script in a grid. A text that is no script is reported like
any other outcome; only a grid without a start has no report.
-/

namespace MazeRobot.Engine

/-- Whether a text is a script. -/
def check (config : EngineConfig) (code : String) : Except Script.ParseError Unit :=
  match Script.Program.ofText config.limits code with
  | .ok _ => .ok ()
  | .error e => .error e

/-- What a text is read as, if its evaluation is followed for so many rounds. -/
def readingWithin (rounds : Nat) (config : EngineConfig) (code : String) :
    Except String (Behaviour Script.Memory) :=
  match Script.Program.ofText config.limits code with
  | .error e => .error e.message
  | .ok program => .ok (program.behaviour config.limits rounds)

/-- What a text is read as. -/
def reading (config : EngineConfig) (code : String) : Except String (Behaviour Script.Memory) :=
  readingWithin Script.Eval.endless config code

/-- The run of a text by a robot. -/
def run (config : EngineConfig) (code : String) (r : Robot) : Run.Ended :=
  Run.attempt (reading config code) config.maxTicks r

/-- Runs a text in a grid. -/
def execute (config : EngineConfig) (grid : Grid) (goal : Coord) (code : String) :
    Except GridDefect Report :=
  Run.execute config (reading config code) grid goal

end MazeRobot.Engine
