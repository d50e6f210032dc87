import MazeRobot.Robot

/-!
# Primitive calls

Whoever holds a robot in its hands needs no script: it calls the primitives one
after the other and keeps the replies. What came of a call is told by its
episode: the call, the reply and the records that were written meanwhile. A call
is an aside if it is answered without doing anything, whatever the robot: looking
around, talking, and asking for something senseless.
-/

namespace MazeRobot

namespace Robot

/-- What can be asked of a robot without touching it. -/
inductive Question where
  /-- The cell in a direction. -/
  | project (side : Relative)
  /-- Whether the robot could stand there. -/
  | isEmpty (side : Relative)
  /-- Whether the goal is there. -/
  | isGoal (side : Relative)
  /-- Whether the robot was there. -/
  | hasVisited (side : Relative)
  /-- How often the robot was there. -/
  | visitCount (side : Relative)
  /-- All cells that the robot entered. -/
  | visitedCells
  /-- Where the robot stands. -/
  | position
  /-- Where the robot should go. -/
  | goal
  deriving DecidableEq, Repr

/-- The kind of answer to a question. -/
@[reducible] def Question.Answer : Question → Type
  | .project _ | .position | .goal => Coord
  | .isEmpty _ | .isGoal _ | .hasVisited _ => Bool
  | .visitCount _ => UInt32
  | .visitedCells => List VisitedCell

/-- The answer to a question. -/
def tell (r : Robot) : (q : Question) → q.Answer
  | .project side => r.project side
  | .isEmpty side => r.isEmpty side
  | .isGoal side => r.isGoal side
  | .hasVisited side => r.hasVisited side
  | .visitCount side => r.visitCount side
  | .visitedCells => r.visits.cells
  | .position => r.position
  | .goal => r.goal

/-- The calls that a robot understands. -/
inductive Primitive where
  /-- Go ahead so many cells. -/
  | moveForward (count : Int64)
  /-- Make a quarter turn. -/
  | turn (t : Turn)
  /-- Make the turn that a word names. -/
  | turnNamed (word : String)
  /-- Look up a direction by its word. -/
  | relativeNamed (word : String)
  /-- Look up a neighbour by its word. -/
  | neighbourNamed (word : String)
  /-- Ask something. -/
  | ask (q : Question)
  /-- Write a line for the script. -/
  | log (text : String)
  /-- Write a line as it is. -/
  | note (message : String)
  /-- Declare the run over. -/
  | finish
  deriving DecidableEq, Repr

namespace Primitive

/-- What a robot replies to a call. -/
@[reducible] def Reply : Primitive → Type
  | moveForward _ => Except Refusal Bool
  | turn _ | turnNamed _ => Except Refusal Unit
  | relativeNamed _ | neighbourNamed _ => Option Relative
  | ask q => q.Answer
  | log _ | note _ | finish => Unit

/-- Whether a call is answered without doing anything, whatever the robot. -/
def isAside : Primitive → Bool
  | moveForward count => count < 1
  | turnNamed word => (Turn.ofWord? word).isNone
  | turn _ | finish => false
  | relativeNamed _ | neighbourNamed _ | ask _ | log _ | note _ => true

end Primitive

/-- Answers a call. -/
def perform (r : Robot) : (p : Primitive) → Robot × p.Reply
  | .moveForward count => r.moveForward count
  | .turn t => r.turn t
  | .turnNamed word => r.turnNamed word
  | .relativeNamed word => r.relativeNamed word
  | .neighbourNamed word => r.neighbourNamed word
  | .ask q => (r, r.tell q)
  | .log text => (r.log text, ())
  | .note message => (r.note message, ())
  | .finish => (r.finish, ())

/-- What came of a call. -/
structure Episode where
  /-- The call. -/
  primitive : Primitive
  /-- The reply. -/
  reply : primitive.Reply
  /-- The records written meanwhile, oldest first. -/
  records : List Record

/-- The episode of a call. -/
def episode (r : Robot) (p : Primitive) : Episode :=
  ⟨p, (r.perform p).2, (r.perform p).1.trace.toList.drop r.trace.length⟩

/-- Answers calls one after the other: the robot at the end, and what came of
each of them. -/
def performAll : List Primitive → Robot → Robot × List Episode
  | [], r => (r, [])
  | p :: rest, r =>
    let (last, episodes) := performAll rest (r.perform p).1
    (last, r.episode p :: episodes)

/-- The robot as it is but for its trace, which is empty. -/
def silent (r : Robot) : Robot :=
  { r with trace := .empty }

end Robot

end MazeRobot
