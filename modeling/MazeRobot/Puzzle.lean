import MazeRobot.Explanation
import MazeRobot.Grid

/-!
# Puzzles

A puzzle is a grid with a goal and what a player is told about it. It can be
played if the grid has a start and a robot can stand on the goal.
-/

namespace MazeRobot

/-- How hard a puzzle is. -/
inductive Difficulty where
  /-- For a beginner. -/
  | easy
  /-- For someone with practice. -/
  | medium
  /-- For an expert. -/
  | hard
  deriving DecidableEq, Repr

namespace Difficulty

/-- The written form of a difficulty. -/
def tag : Difficulty → String
  | easy => "easy"
  | medium => "medium"
  | hard => "hard"

/-- The difficulty that a written form stands for. -/
def ofTag? (tag : String) : Option Difficulty :=
  if tag = "easy" then some easy
  else if tag = "medium" then some medium
  else if tag = "hard" then some hard
  else none

/-- The name of a difficulty. -/
def name : Difficulty → String
  | easy => "Easy"
  | medium => "Medium"
  | hard => "Hard"

/-- The place of a difficulty, the easiest first. -/
def rank : Difficulty → Nat
  | easy => 0
  | medium => 1
  | hard => 2

theorem ofTag?_tag (d : Difficulty) : ofTag? d.tag = some d := by
  cases d <;> rfl

theorem rank_inj {d e : Difficulty} (h : d.rank = e.rank) : d = e := by
  cases d <;> cases e <;> first | rfl | cases h

end Difficulty

/-- A maze to be solved. -/
structure Puzzle where
  /-- The name to choose it by. -/
  id : String
  /-- The name to show. -/
  title : String
  /-- What it is about. -/
  description : String
  /-- How hard it is. -/
  difficulty : Difficulty
  /-- Its place in a catalog, if it asks for one. -/
  order : Option UInt32
  /-- The maze. -/
  grid : Grid
  /-- Where the robot is meant to go. -/
  goal : Coord
  /-- A hint. -/
  hint : Option String
  /-- A script that solves it. -/
  solution : Option String
  deriving DecidableEq

namespace Puzzle

/-- Why a puzzle cannot be played. -/
inductive Defect where
  /-- The grid of the puzzle with this name has no start. -/
  | noStart (id : String)
  /-- No robot can stand on its goal. -/
  | badGoal (id : String) (goal : Coord)
  deriving DecidableEq, Repr

/-- What is told about a defect. -/
def Defect.explanation : Defect → Explanation
  | noStart id => (Explanation.plain GridDefect.noStart.message).within s!"puzzle '{id}'"
  | badGoal id goal =>
    .plain s!"puzzle '{id}' has its goal {goal.text} on a wall or outside the grid"

/-- The defect of a puzzle, if it has one: the start is looked for before the
goal. -/
def validate (p : Puzzle) : Except Defect Unit :=
  match p.grid.findStart with
  | .error _ => .error (.noStart p.id)
  | .ok _ =>
    if p.grid.isPassable p.goal then .ok () else .error (.badGoal p.id p.goal)

/-- A glyph for each cell: the goal, walls, starts and the rest. -/
def glyph (p : Puzzle) (c : Coord) (cell : Cell) : Char :=
  if c = p.goal then 'G'
  else if cell.isWall then '#'
  else if cell = .start then 'S'
  else '.'

/-- The glyphs of a row; `x` is the column of the first. -/
def renderRow (p : Puzzle) (y : Nat) : Nat → List Cell → List Char
  | _, [] => ['\n']
  | x, cell :: rest => p.glyph ⟨Int32.ofNat x, Int32.ofNat y⟩ cell :: p.renderRow y (x + 1) rest

/-- The glyphs of rows; `y` is the number of the first. -/
def renderRows (p : Puzzle) : Nat → List (List Cell) → List Char
  | _, [] => []
  | y, row :: rest => p.renderRow y 0 row ++ p.renderRows (y + 1) rest

/-- The maze as text, one row on a line. -/
def render (p : Puzzle) : String :=
  String.ofList (p.renderRows 0 p.grid.rows)

end Puzzle

end MazeRobot
