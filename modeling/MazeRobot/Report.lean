import MazeRobot.Trace

/-!
# Reports

What is known about a run after it: how it ended, whether the robot made it,
and the whole trace, so that it can be replayed without the script.
-/

namespace MazeRobot

/-- How a run that did not fail came to an end. -/
inductive Termination where
  /-- The robot stood on the goal after a tick. -/
  | goal
  /-- The script declared the run over. -/
  | done
  /-- The script has nothing to do at a tick. -/
  | noTick
  deriving DecidableEq, Repr

/-- How a run ended. -/
inductive Outcome where
  /-- In an orderly way. -/
  | completed (via : Termination)
  /-- The tick budget was used up. -/
  | stepLimitExceeded (ticks : UInt32)
  /-- The text was no script. -/
  | parseError (message : String)
  /-- The script failed, or a step was refused. -/
  | runtimeError (message : String)
  deriving DecidableEq, Repr

namespace Outcome

/-- The short name of an outcome. -/
def label : Outcome → String
  | completed _ => "completed"
  | stepLimitExceeded _ => "step_limit_exceeded"
  | parseError _ => "parse_error"
  | runtimeError _ => "runtime_error"

/-- Whether something went wrong. -/
def isError : Outcome → Bool
  | completed _ | stepLimitExceeded _ => false
  | parseError _ | runtimeError _ => true

end Outcome

/-- What a run came to. -/
structure RunResult where
  /-- Whether the robot stood on its goal in the end and nothing went wrong. -/
  completed : Bool
  /-- How many steps it made. -/
  steps : UInt32
  deriving DecidableEq, Repr

/-- All about a run. -/
structure Report where
  /-- How it ended. -/
  outcome : Outcome
  /-- What it came to. -/
  result : RunResult
  /-- Where the robot began. -/
  start : Coord
  /-- Where it was meant to go. -/
  goal : Coord
  /-- How often the script was asked what to do next. -/
  ticks : UInt32
  /-- What the robot did. -/
  trace : Trace
  deriving DecidableEq, Repr

end MazeRobot
