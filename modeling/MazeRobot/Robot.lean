import MazeRobot.Grid
import MazeRobot.Heading
import MazeRobot.Trace
import MazeRobot.Visits

/-!
# The robot

A robot lives in one grid, remembers where it has been and writes a trace of
what it does. Every primitive is a function from a robot to a robot. Moves
and turns cost a step each; once the step budget is used up they are refused,
which is the only failure. Looking around and talking are free, and asking for
something senseless is answered by a warning in the trace.
-/

namespace MazeRobot

/-- A move or turn was refused because the step budget is used up. -/
structure Refusal where
  /-- The budget. -/
  limit : UInt32
  deriving DecidableEq, Repr

namespace Refusal

/-- The wording of a refusal. -/
def message (r : Refusal) : String :=
  s!"Maximum steps exceeded ({r.limit.toNat})"

end Refusal

/-- The state of one run inside a grid. -/
structure Robot where
  /-- The maze. -/
  grid : Grid
  /-- Where the robot is meant to go. -/
  goal : Coord
  /-- Where it stands. -/
  position : Coord
  /-- Which way it faces. -/
  heading : Heading
  /-- The cells it entered. -/
  visits : Visits
  /-- What it did so far. -/
  trace : Trace
  /-- Steps made so far. -/
  steps : UInt32
  /-- The step budget. -/
  maxSteps : UInt32
  /-- Whether the run was declared over. -/
  done : Bool
  /-- Whether a step was ever refused. -/
  refused : Bool

namespace Robot

/-- A robot at `start`, facing east, which has visited only that cell. -/
def init (grid : Grid) (start goal : Coord) (maxSteps : UInt32) : Robot where
  grid := grid
  goal := goal
  position := start
  heading := .east
  visits := .seeded start
  trace := .empty
  steps := 0
  maxSteps := maxSteps
  done := false
  refused := false

/-- Whether the robot stands on its goal. -/
def atGoal (r : Robot) : Bool :=
  r.position == r.goal

/-- The cell in a direction as seen by the robot. -/
def project (r : Robot) : Relative → Coord
  | .here => r.position
  | .front => r.position.offset r.heading.delta
  | .left => r.position.offset (r.heading.turned .left).delta
  | .right => r.position.offset (r.heading.turned .right).delta

/-- Appends a record that carries the present position and heading. -/
def record (r : Robot) (kind : ActionKind) (message : String) : Robot :=
  { r with trace := r.trace.push ⟨kind, r.position, r.heading, message⟩ }

/-- Appends a log record. -/
def note (r : Robot) (message : String) : Robot :=
  r.record .log message

/-- Appends a line that the script wants on the console. -/
def log (r : Robot) (message : String) : Robot :=
  r.note ("📝 " ++ message)

/-- Declares the run over. -/
def finish (r : Robot) : Robot :=
  { r with done := true }

/-- The warning for a blocked way. -/
def blockedMessage : String :=
  "⚠️ Cannot move - wall or out of bounds"

/-- The warning for a move of less than one cell. -/
def badCountMessage (count : Int64) : String :=
  s!"⚠️ Invalid move count {count.toInt} (must be at least 1)"

/-- The warning for a word that names no turn. -/
def badTurnMessage (word : String) : String :=
  s!"⚠️ Invalid turn direction '{word}' (use \"left\" or \"right\")"

/-- The warning for a word that names no direction. -/
def badDirectionMessage (word : String) : String :=
  s!"⚠️ Invalid direction '{word}' (use \"here\", \"front\", \"left\" or \"right\")"

/-- The warning for a word that names no neighbour. -/
def badNeighbourMessage (word : String) : String :=
  s!"⚠️ Invalid direction '{word}' (use \"front\", \"left\" or \"right\")"

/-- The line for a step ahead. -/
def movedMessage (target : Coord) : String :=
  "Moved to " ++ target.text

/-- The line for a turn that leaves the robot facing `heading`. -/
def turnedMessage (t : Turn) (heading : Heading) : String :=
  "Turned " ++ t.word ++ ", now facing " ++ heading.letter

/-- Whether the step budget is used up. -/
def exhausted (r : Robot) : Bool :=
  r.maxSteps ≤ r.steps

/-- The robot once a step was refused. -/
def refuse (r : Robot) : Robot :=
  { r with refused := true }

/-- The robot one cell ahead, a step later. -/
def advance (r : Robot) : Robot :=
  let target := r.project .front
  { r with
    position := target
    steps := r.steps + 1
    visits := r.visits.visit target }.record .move (movedMessage target)

/-- The robot after a quarter turn, a step later. -/
def rotate (r : Robot) (t : Turn) : Robot :=
  let heading := r.heading.turned t
  { r with heading := heading, steps := r.steps + 1 }.record .turn (turnedMessage t heading)

/-- Moves ahead at most `count` cells. The budget is checked before each cell,
then the way; a blocked way ends the move with a warning. -/
def moveTimes : Nat → Robot → Robot × Except Refusal Bool
  | 0, r => (r, .ok true)
  | count + 1, r =>
    if r.exhausted then (r.refuse, .error ⟨r.maxSteps⟩)
    else if r.grid.isPassable (r.project .front) then moveTimes count r.advance
    else (r.note blockedMessage, .ok false)

/-- Moves ahead `count` cells, or as far as the way and the budget allow. A
count below one is answered by a warning. -/
def moveForward (r : Robot) (count : Int64) : Robot × Except Refusal Bool :=
  if count < 1 then (r.note (badCountMessage count), .ok false)
  else moveTimes count.toInt.toNat r

/-- Makes a quarter turn, a step later. -/
def turn (r : Robot) (t : Turn) : Robot × Except Refusal Unit :=
  if r.exhausted then (r.refuse, .error ⟨r.maxSteps⟩)
  else (r.rotate t, .ok ())

/-- Makes the turn that a word names. Any other word is answered by a
warning, also when the budget is used up. -/
def turnNamed (r : Robot) (word : String) : Robot × Except Refusal Unit :=
  match Turn.ofWord? word with
  | some t => r.turn t
  | none => (r.note (badTurnMessage word), .ok ())

/-- The direction that a word names, with a warning for any other word. -/
def relativeNamed (r : Robot) (word : String) : Robot × Option Relative :=
  match Relative.ofWord? word with
  | some side => (r, some side)
  | none => (r.note (badDirectionMessage word), none)

/-- The neighbour that a word names, with a warning for any other word. -/
def neighbourNamed (r : Robot) (word : String) : Robot × Option Relative :=
  match Relative.ofNeighbourWord? word with
  | some side => (r, some side)
  | none => (r.note (badNeighbourMessage word), none)

/-- Whether the robot could stand on the cell in a direction. -/
def isEmpty (r : Robot) (side : Relative) : Bool :=
  r.grid.isPassable (r.project side)

/-- Whether the cell in a direction is the goal. -/
def isGoal (r : Robot) (side : Relative) : Bool :=
  r.project side == r.goal

/-- Whether the cell in a direction was ever entered. -/
def hasVisited (r : Robot) (side : Relative) : Bool :=
  r.visits.has (r.project side)

/-- How often the cell in a direction was entered. -/
def visitCount (r : Robot) (side : Relative) : UInt32 :=
  r.visits.count (r.project side)

@[simp] theorem toList_note (r : Robot) (message : String) :
    (r.note message).trace.toList =
      r.trace.toList ++ [⟨.log, r.position, r.heading, message⟩] :=
  Trace.toList_push _ _

@[simp] theorem toList_advance (r : Robot) :
    r.advance.trace.toList = r.trace.toList ++
      [⟨.move, r.project .front, r.heading, movedMessage (r.project .front)⟩] :=
  Trace.toList_push _ _

@[simp] theorem toList_rotate (r : Robot) (t : Turn) :
    (r.rotate t).trace.toList = r.trace.toList ++
      [⟨.turn, r.position, r.heading.turned t, turnedMessage t (r.heading.turned t)⟩] :=
  Trace.toList_push _ _

end Robot

end MazeRobot
