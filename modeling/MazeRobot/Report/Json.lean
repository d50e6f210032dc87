import MazeRobot.Json.Tagged
import MazeRobot.Report
import MazeRobot.Trace.Json

/-!
# Reports as JSON

A report is an object of its parts. Its outcome is an object whose member
`state` tells what the other member means.
-/

namespace MazeRobot

namespace Termination

/-- The written form. -/
def tag : Termination → String
  | goal => "goal"
  | done => "done"
  | noTick => "no_tick"

/-- The termination that a written form stands for. -/
def ofTag? (tag : String) : Option Termination :=
  if tag = "goal" then some goal
  else if tag = "done" then some done
  else if tag = "no_tick" then some noTick
  else none

theorem ofTag?_tag (t : Termination) : ofTag? t.tag = some t := by
  cases t <;> rfl

end Termination

namespace Outcome

/-- What the member `state` may say. -/
inductive State where
  /-- The run came to an orderly end. -/
  | completed
  /-- The tick budget was used up. -/
  | stepLimitExceeded
  /-- The text was no script. -/
  | parseError
  /-- The script failed. -/
  | runtimeError
  deriving DecidableEq, Repr

/-- The state that a written form stands for. -/
def State.ofTag? (tag : String) : Option State :=
  if tag = "completed" then some completed
  else if tag = "step_limit_exceeded" then some stepLimitExceeded
  else if tag = "parse_error" then some parseError
  else if tag = "runtime_error" then some runtimeError
  else none

/-- The member that an outcome has besides its state. -/
def detail : Outcome → String × Json
  | completed via => ("via", .string via.tag)
  | stepLimitExceeded ticks => ("ticks", .number ticks.toNat)
  | parseError message => ("message", .string message)
  | runtimeError message => ("message", .string message)

/-- An outcome as an object. -/
def toJson (o : Outcome) : Json :=
  .object [("state", .string o.label), o.detail]

/-- How deep arrays and objects may nest in the members of an outcome. A
reader follows 127 levels, and the report and its outcome take two. -/
def keptDepth : Nat := 125

/-- The outcome of a state and what was kept with it. -/
def ofKept (kept : Decoder.Kept) : State → Except Fault Outcome
  | .completed => do
    return .completed (← kept.only "via" (Decoder.keptWord Termination.ofTag?))
  | .stepLimitExceeded => do
    return .stepLimitExceeded (← kept.only "ticks" Decoder.uint32)
  | .parseError => do
    return .parseError (← kept.only "message" Decoder.string)
  | .runtimeError => do
    return .runtimeError (← kept.only "message" Decoder.string)

/-- Reads an outcome. -/
def decode : Decoder Outcome := fun s =>
  match Decoder.tagged "state" (Decoder.tagWord State.ofTag?) keptDepth s with
  | .error f => .error f
  | .ok (state, kept) => ofKept kept state

end Outcome

namespace RunResult

/-- A result as an object. -/
def toJson (r : RunResult) : Json :=
  .object [("completed", .bool r.completed), ("steps", .number r.steps.toNat)]

/-- A result under construction. -/
structure Draft where
  /-- Whether the robot made it. -/
  completed : Option Bool := none
  /-- How many steps it made. -/
  steps : Option UInt32 := none

/-- Reads a result. -/
def decode : Decoder RunResult :=
  Decoder.record (σ := Draft)
    [Decoder.field "completed" Draft.completed (fun d v => { d with completed := some v })
       Decoder.bool,
     Decoder.field "steps" Draft.steps (fun d v => { d with steps := some v }) Decoder.uint32]
    {} fun d => do return ⟨← d.completed, ← d.steps⟩

end RunResult

namespace Report

/-- A report as an object. -/
def toJson (r : Report) : Json :=
  .object [
    ("outcome", r.outcome.toJson),
    ("result", r.result.toJson),
    ("start", r.start.toJson),
    ("goal", r.goal.toJson),
    ("ticks", .number r.ticks.toNat),
    ("trace", r.trace.toJson)]

/-- A report under construction. -/
structure Draft where
  /-- How the run ended. -/
  outcome : Option Outcome := none
  /-- What it came to. -/
  result : Option RunResult := none
  /-- Where the robot began. -/
  start : Option Coord := none
  /-- Where it was meant to go. -/
  goal : Option Coord := none
  /-- How many ticks were begun. -/
  ticks : Option UInt32 := none
  /-- What the robot did. -/
  trace : Option Trace := none

/-- Reads a report. -/
def decode : Decoder Report :=
  Decoder.record (σ := Draft)
    [Decoder.field "outcome" Draft.outcome (fun d v => { d with outcome := some v })
       Outcome.decode,
     Decoder.field "result" Draft.result (fun d v => { d with result := some v })
       RunResult.decode,
     Decoder.field "start" Draft.start (fun d v => { d with start := some v }) Coord.decode,
     Decoder.field "goal" Draft.goal (fun d v => { d with goal := some v }) Coord.decode,
     Decoder.field "ticks" Draft.ticks (fun d v => { d with ticks := some v }) Decoder.uint32,
     Decoder.field "trace" Draft.trace (fun d v => { d with trace := some v }) Trace.decode]
    {} fun d => do
      return ⟨← d.outcome, ← d.result, ← d.start, ← d.goal, ← d.ticks, ← d.trace⟩

end Report

end MazeRobot
