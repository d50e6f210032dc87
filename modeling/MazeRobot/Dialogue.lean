import MazeRobot.Robot

/-!
# Dialogues with a robot

Whoever steers a robot does so by calls, one after the other, and sees nothing
but the replies. A dialogue is all that such a client will ever do: it is over,
or it makes a call and goes on in a way that depends on the reply. Playing it
on a robot gives the robot afterwards and the result. What holds of a robot
after every single call therefore holds after every dialogue.
-/

namespace MazeRobot

/-- What a client may ask of a robot. A direction that is left out means the
cell ahead for `isEmpty` and the robot's own cell for the others. -/
inductive Call where
  /-- Go ahead so many cells. -/
  | move (count : Int64)
  /-- Make the turn that a word names. -/
  | turn (word : String)
  /-- Whether the robot could stand there. -/
  | isEmpty (word : Option String)
  /-- Whether the goal is there. -/
  | isGoal (word : Option String)
  /-- Whether the robot was there. -/
  | hasVisited (word : Option String)
  /-- How often the robot was there. -/
  | visitCount (word : Option String)
  /-- All cells that the robot entered. -/
  | visitedCells
  /-- Where the robot stands. -/
  | position
  /-- Where the robot should go. -/
  | goal
  /-- Write a line. -/
  | log (text : String)
  /-- Declare the run over. -/
  | finish
  deriving DecidableEq, Repr

/-- What a robot replies to a call. -/
@[reducible] def Call.Reply : Call → Type
  | .move _ => Except Refusal Bool
  | .turn _ => Except Refusal Unit
  | .isEmpty _ | .isGoal _ | .hasVisited _ => Bool
  | .visitCount _ => UInt32
  | .visitedCells => List VisitedCell
  | .position | .goal => Coord
  | .log _ | .finish => Unit

namespace Robot

/-- Looks in the direction that a word names; where it names none, the answer
is `preset`. -/
def look {α : Type} (r : Robot) (word : String) (preset : α) (read : Robot → Relative → α) :
    Robot × α :=
  match r.relativeNamed word with
  | (r, some side) => (r, read r side)
  | (r, none) => (r, preset)

/-- Answers a call. -/
def answer (r : Robot) : (c : Call) → Robot × c.Reply
  | .move count => r.moveForward count
  | .turn word => r.turnNamed word
  | .isEmpty none => (r, r.isEmpty .front)
  | .isEmpty (some word) =>
    match r.neighbourNamed word with
    | (r, some side) => (r, r.isEmpty side)
    | (r, none) => (r, false)
  | .isGoal none => (r, r.isGoal .here)
  | .isGoal (some word) => r.look word false isGoal
  | .hasVisited none => (r, r.hasVisited .here)
  | .hasVisited (some word) => r.look word false hasVisited
  | .visitCount none => (r, r.visitCount .here)
  | .visitCount (some word) => r.look word 0 visitCount
  | .visitedCells => (r, r.visits.cells)
  | .position => (r, r.position)
  | .goal => (r, r.goal)
  | .log text => (r.log text, ())
  | .finish => (r.finish, ())

end Robot

/-- All that a client will do. -/
inductive Dialogue (α : Type) where
  /-- Nothing more. -/
  | done (result : α)
  /-- Make a call and go on by the reply. -/
  | ask (call : Call) (next : call.Reply → Dialogue α)

namespace Dialogue

/-- One dialogue and, by its result, another one. -/
def bind {α β : Type} : Dialogue α → (α → Dialogue β) → Dialogue β
  | done a, f => f a
  | ask call next, f => ask call fun reply => bind (next reply) f

instance : Monad Dialogue where
  pure := done
  bind := bind

/-- Plays a dialogue on a robot. -/
def play {α : Type} : Dialogue α → Robot → Robot × α
  | done a, r => (r, a)
  | ask call next, r =>
    let (r, reply) := r.answer call
    (next reply).play r

/-- The dialogue of one call. -/
def call (c : Call) : Dialogue c.Reply :=
  ask c done

theorem play_bind {α β : Type} (d : Dialogue α) (f : α → Dialogue β) (r : Robot) :
    (d.bind f).play r = (f (d.play r).2).play (d.play r).1 := by
  induction d generalizing r with
  | done a => rfl
  | ask call next ih => exact ih _ _

/-- What every answer keeps, every dialogue keeps. -/
theorem play_induction {α : Type} (P : Robot → Prop)
    (keep : ∀ r c, P r → P (r.answer c).1) (d : Dialogue α) (r : Robot) (h : P r) :
    P (d.play r).1 := by
  induction d generalizing r with
  | done a => exact h
  | ask call next ih => exact ih _ _ (keep r call h)

end Dialogue

end MazeRobot
