import MazeRobot.Config
import MazeRobot.Dialogue
import MazeRobot.Report

/-!
# Runs of a behaviour

A behaviour is what a script amounts to for the robot: a dialogue at the top,
one at the start and one at every tick. They share a memory and nothing else,
and each either ends well or fails with a message. A run goes through them in
order and stops at the first event that ends it. A refused step ends it, even
if the dialogue goes on after it. Nothing here asks where a behaviour comes from:
a text is read as one, or it is none, and then there is nothing to run.
-/

namespace MazeRobot

/-- Why a dialogue did not end well. -/
inductive Stop where
  /-- It failed, with a message. -/
  | failed (message : String)
  /-- It was broken off, since it was not followed any further. Perhaps it never
  ends. -/
  | brokenOff
  deriving DecidableEq, Repr

/-- What is told about it. What is broken off took too many steps to be followed. -/
def Stop.message : Stop → String
  | failed message => message
  | brokenOff => "Too many operations"

/-- What steers a robot, with a memory of type `σ`. -/
structure Behaviour (σ : Type) where
  /-- The memory at first. -/
  memory : σ
  /-- What is done before anything else; it has no memory. -/
  top : Dialogue (Except Stop Unit)
  /-- What is done once, if anything. -/
  start : Option (σ → Dialogue (Except Stop σ))
  /-- What is done at every tick, if anything. -/
  update : Option (σ → Dialogue (Except Stop σ))

namespace Run

/-- The message of a run in which a step was refused. -/
def ceilingMessage (r : Robot) : String :=
  (Refusal.mk r.maxSteps).message

/-- Plays one dialogue. A failure or a refused step ends the run. -/
def phase {α : Type} (d : Dialogue (Except Stop α)) (r : Robot) :
    Robot × Except Outcome α :=
  match d.play r with
  | (r, result) =>
    if r.refused then (r, .error (.runtimeError (ceilingMessage r)))
    else
      match result with
      | .ok a => (r, .ok a)
      | .error stop => (r, .error (.runtimeError stop.message))

/-- A run as it ended, before the closing lines. -/
structure Ended where
  /-- The robot. -/
  robot : Robot
  /-- How it ended. -/
  outcome : Outcome
  /-- How many ticks were begun. -/
  ticks : UInt32

/-- Ticks until something ends the run; `remaining` ticks are left of the
budget, after `ticks` of them. -/
def ticking {σ : Type} (update : σ → Dialogue (Except Stop σ)) :
    Nat → UInt32 → σ → Robot → Ended
  | 0, ticks, _, r =>
    if r.done then ⟨r, .completed .done, ticks⟩ else ⟨r, .stepLimitExceeded ticks, ticks⟩
  | remaining + 1, ticks, memory, r =>
    if r.done then ⟨r, .completed .done, ticks⟩
    else
      match phase (update memory) r with
      | (r, .error outcome) => ⟨r, outcome, ticks + 1⟩
      | (r, .ok memory) =>
        if r.atGoal then ⟨r, .completed .goal, ticks + 1⟩
        else ticking update remaining (ticks + 1) memory r

/-- The ticks of a behaviour, if it does anything at a tick. -/
def ticks {σ : Type} (b : Behaviour σ) (maxTicks : UInt32) (memory : σ) (r : Robot) : Ended :=
  match b.update with
  | none => ⟨r, .completed .noTick, 0⟩
  | some update => ticking update maxTicks.toNat 0 memory r

/-- What comes before the ticks: the top, and then the start if there is one. -/
def opening {σ : Type} (b : Behaviour σ) (r : Robot) : Robot × Except Outcome σ :=
  match phase b.top r with
  | (r, .error outcome) => (r, .error outcome)
  | (r, .ok ()) =>
    match b.start with
    | none => (r, .ok b.memory)
    | some start => phase (start b.memory) r

/-- A whole run: the opening, and then the ticks. -/
def drive {σ : Type} (b : Behaviour σ) (maxTicks : UInt32) (r : Robot) : Ended :=
  match opening b r with
  | (r, .error outcome) => ⟨r, outcome, 0⟩
  | (r, .ok memory) => ticks b maxTicks memory r

/-- The run of what a text was read as. If it is no script, that is what is wrong with
it, and nothing is done. -/
def attempt {σ : Type} (reading : Except String (Behaviour σ)) (maxTicks : UInt32) (r : Robot) :
    Ended :=
  match reading with
  | .error message => ⟨r, .parseError message, 0⟩
  | .ok b => drive b maxTicks r

/-- The last line of a run that made it. -/
def reachedLine : String := "✅ Goal reached!"

/-- The last line of a run that did not. -/
def missedLine : String := "❌ Goal not reached"

/-- Whether the run made it. -/
def Ended.succeeded (e : Ended) : Bool :=
  !e.outcome.isError && e.robot.atGoal

/-- The robot after it wrote the closing lines. -/
def Ended.closed (e : Ended) : Robot :=
  match e.outcome with
  | .parseError message => e.robot.note ("❌ Parse error: " ++ message)
  | .runtimeError message => e.robot.note ("❌ Error: " ++ message)
  | .stepLimitExceeded ticks =>
    (e.robot.note s!"⏱️ Tick limit reached ({ticks.toNat} iterations)").note missedLine
  | .completed _ => e.robot.note (if e.succeeded then reachedLine else missedLine)

/-- The steps that a report tells: none if there was no script. -/
def Ended.steps (e : Ended) : UInt32 :=
  match e.outcome with
  | .parseError _ => 0
  | _ => e.robot.steps

/-- The report on a run that began at `start`. -/
def Ended.report (e : Ended) (start : Coord) : Report where
  outcome := e.outcome
  result := ⟨e.succeeded, e.steps⟩
  start := start
  goal := e.robot.goal
  ticks := e.ticks
  trace := e.closed.trace

/-- The report on what a text was read as, in a grid. Only a grid without a start has
none. -/
def execute {σ : Type} (config : EngineConfig) (reading : Except String (Behaviour σ))
    (grid : Grid) (goal : Coord) : Except GridDefect Report :=
  match grid.findStart with
  | .error defect => .error defect
  | .ok start =>
    .ok ((attempt reading config.maxTicks (.init grid start goal config.maxSteps)).report start)

end Run

end MazeRobot
