import MazeRobot.Coord

/-!
# Headings and turns

Four headings form a cycle. A right turn goes one step around it, a left turn
three, so four equal turns lead back and a left turn undoes a right one.
Directions named by text are the lower-case words and nothing else.
-/

namespace MazeRobot

/-- The way a robot faces. -/
inductive Heading where
  /-- Towards smaller rows. -/
  | north
  /-- Towards larger columns; where every robot faces at first. -/
  | east
  /-- Towards larger rows. -/
  | south
  /-- Towards smaller columns. -/
  | west
  deriving DecidableEq, Repr, Inhabited

/-- A quarter turn. -/
inductive Turn where
  /-- Against the clock. -/
  | left
  /-- With the clock. -/
  | right
  deriving DecidableEq, Repr

/-- A direction as seen by the robot. -/
inductive Relative where
  /-- The cell the robot stands on. -/
  | here
  /-- The cell ahead. -/
  | front
  /-- The cell on the left hand. -/
  | left
  /-- The cell on the right hand. -/
  | right
  deriving DecidableEq, Repr

namespace Turn

/-- The word for a turn. -/
def word : Turn → String
  | left => "left"
  | right => "right"

/-- The turn that a word names. -/
def ofWord? (word : String) : Option Turn :=
  if word = "left" then some left
  else if word = "right" then some right
  else none

/-- The turn that undoes this one. -/
def opposite : Turn → Turn
  | left => right
  | right => left

theorem ofWord?_word (t : Turn) : ofWord? t.word = some t := by
  cases t <;> rfl

end Turn

namespace Relative

/-- The direction that a word names. -/
def ofWord? (word : String) : Option Relative :=
  if word = "here" then some here
  else if word = "front" then some front
  else if word = "left" then some left
  else if word = "right" then some right
  else none

/-- The name of a direction. -/
def name : Relative → String
  | here => "Here"
  | front => "Front"
  | left => "Left"
  | right => "Right"

/-- The neighbour that a word names; the robot's own cell is no neighbour. -/
def ofNeighbourWord? (word : String) : Option Relative :=
  match ofWord? word with
  | some here => none
  | other => other

end Relative

namespace Heading

/-- The heading after a quarter turn. -/
def turned : Heading → Turn → Heading
  | north, .right => east
  | east, .right => south
  | south, .right => west
  | west, .right => north
  | north, .left => west
  | east, .left => north
  | south, .left => east
  | west, .left => south

/-- One step in this direction. -/
def delta : Heading → Coord
  | north => ⟨0, -1⟩
  | east => ⟨1, 0⟩
  | south => ⟨0, 1⟩
  | west => ⟨-1, 0⟩

/-- The initial of the heading, which is also its written form. -/
def letter : Heading → String
  | north => "N"
  | east => "E"
  | south => "S"
  | west => "W"

/-- The heading that an initial stands for. -/
def ofLetter? (letter : String) : Option Heading :=
  if letter = "N" then some north
  else if letter = "E" then some east
  else if letter = "S" then some south
  else if letter = "W" then some west
  else none

/-- The name of the heading. -/
def name : Heading → String
  | north => "North"
  | east => "East"
  | south => "South"
  | west => "West"

/-- An arrow pointing that way on a map with north on top. -/
def arrow : Heading → String
  | north => "↑"
  | east => "→"
  | south => "↓"
  | west => "←"

theorem ofLetter?_letter (h : Heading) : ofLetter? h.letter = some h := by
  cases h <;> rfl

theorem turned_opposite (h : Heading) (t : Turn) : (h.turned t).turned t.opposite = h := by
  cases h <;> cases t <;> rfl

/-- Two turns to the same side reverse the step. -/
theorem delta_turned_twice (h : Heading) (t : Turn) :
    ((h.turned t).turned t).delta = ⟨-h.delta.x, -h.delta.y⟩ := by
  cases h <;> cases t <;> rfl

end Heading

end MazeRobot
