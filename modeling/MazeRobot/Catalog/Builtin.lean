import MazeRobot.Catalog

/-!
# The built-in catalog

Nine levels, from the first steps to a large maze. Each comes with a hint and
with a script that solves it.
-/

namespace MazeRobot.Catalog

/-- A level as it is written down. -/
structure Level where
  /-- The name to choose it by. -/
  id : String
  /-- The name to show. -/
  title : String
  /-- What it is about. -/
  description : String
  /-- How hard it is. -/
  difficulty : Difficulty
  /-- The codes of its cells. -/
  codes : List (List UInt8)
  /-- Where the robot is meant to go. -/
  goal : Coord
  /-- A hint. -/
  hint : String
  /-- A script that solves it. -/
  solution : String

/-- The puzzle of a level with a place in the catalog. -/
def Level.puzzle? (l : Level) (order : Nat) : Option Puzzle :=
  match Grid.ofCodes l.codes with
  | .error _ => none
  | .ok grid =>
    some {
      id := l.id
      title := l.title
      description := l.description
      difficulty := l.difficulty
      order := some (UInt32.ofNat order)
      grid := grid
      goal := l.goal
      hint := some l.hint
      solution := some l.solution }

/-- A script that follows a plan: texts turn, numbers move that many cells. -/
def route (plan : String) : String :=
  String.join [
    "fn start() \x7b\n",
    "    this.plan = ", plan, ";\n",
    "    this.next = 0;\n",
    "\x7d\n",
    "\n",
    "fn update() \x7b\n",
    "    let action = this.plan[this.next];\n",
    "    this.next += 1;\n",
    "    if type_of(action) == \"string\" \x7b\n",
    "        turn(action);\n",
    "    \x7d else \x7b\n",
    "        move(action);\n",
    "    \x7d\n",
    "\x7d\n"]

/-- The levels, in play order. -/
def levels : List Level := [
  { id := "first-steps"
    title := "First Steps"
    description :=
      "Move the robot forward to reach the goal (green tile). The robot starts facing east (→)."
    difficulty := .easy
    codes := [
      [0, 0, 0, 0, 0],
      [0, 2, 0, 3, 0],
      [0, 0, 0, 0, 0]]
    goal := ⟨3, 1⟩
    hint := "Use move() in update() to reach the goal!"
    solution := String.join [
      "fn start() \x7b\n",
      "    log(\"Starting...\");\n",
      "\x7d\n",
      "\n",
      "fn update() \x7b\n",
      "    move();\n",
      "\x7d\n"] },
  { id := "turn-and-move"
    title := "Turn and Move"
    description :=
      "The goal is north of your starting position. Turn left, then move forward."
    difficulty := .easy
    codes := [
      [0, 0, 3, 0, 0],
      [0, 0, 0, 0, 0],
      [0, 0, 2, 0, 0],
      [0, 0, 0, 0, 0]]
    goal := ⟨2, 0⟩
    hint := "Turn left in start(), then move in update()!"
    solution := String.join [
      "fn start() \x7b\n",
      "    log(\"Turning left...\");\n",
      "    turn(\"left\");\n",
      "\x7d\n",
      "\n",
      "fn update() \x7b\n",
      "    move();\n",
      "\x7d\n"] },
  { id := "around-one-wall"
    title := "Around One Wall"
    description :=
      "Navigate around a single wall to reach the goal."
    difficulty := .easy
    codes := [
      [0, 0, 0, 0, 0],
      [0, 2, 1, 3, 0],
      [0, 0, 0, 0, 0]]
    goal := ⟨3, 1⟩
    hint := "Go around the wall: down, across, and back up."
    solution := String.join [
      "fn start() \x7b\n",
      "    turn(\"right\");\n",
      "    move();\n",
      "    turn(\"left\");\n",
      "    move(2);\n",
      "    turn(\"left\");\n",
      "    move();\n",
      "\x7d\n"] },
  { id := "maze-runner"
    title := "Maze Runner"
    description :=
      "Navigate through a simple maze to reach the goal."
    difficulty := .medium
    codes := [
      [0, 0, 0, 0, 0],
      [0, 2, 1, 0, 0],
      [0, 0, 1, 0, 3],
      [0, 0, 0, 0, 0]]
    goal := ⟨4, 2⟩
    hint := "The top row is open all the way across."
    solution := route "[\"left\", 1, \"right\", 3, \"right\", 2]" },
  { id := "smart-navigation"
    title := "Smart Navigation"
    description :=
      "Use is_empty() to navigate smartly around the wall."
    difficulty := .medium
    codes := [
      [0, 0, 0, 0, 0, 0],
      [0, 2, 0, 1, 3, 0],
      [0, 0, 0, 1, 0, 0],
      [0, 0, 0, 0, 0, 0]]
    goal := ⟨4, 1⟩
    hint := "The wall has a gap above it."
    solution := route "[1, \"left\", 1, \"right\", 2, \"right\", 1]" },
  { id := "the-long-path"
    title := "The Long Path"
    description :=
      "Navigate a longer path with multiple turns."
    difficulty := .medium
    codes := [
      [0, 0, 0, 0, 0, 0, 0],
      [0, 2, 0, 0, 0, 0, 0],
      [0, 1, 1, 1, 1, 0, 0],
      [0, 0, 0, 0, 0, 0, 3],
      [0, 0, 0, 0, 0, 0, 0]]
    goal := ⟨6, 3⟩
    hint := "Move forward as much as possible, turn right when blocked!"
    solution := String.join [
      "fn update() \x7b\n",
      "    if is_empty() \x7b\n",
      "        move();\n",
      "    \x7d else \x7b\n",
      "        turn(\"right\");\n",
      "    \x7d\n",
      "\x7d\n"] },
  { id := "complex-maze"
    title := "Complex Maze"
    description :=
      "A challenging maze that requires smart pathfinding."
    difficulty := .hard
    codes := [
      [0, 0, 1, 0, 0, 0, 0],
      [0, 2, 1, 0, 1, 1, 0],
      [0, 0, 0, 0, 1, 0, 0],
      [0, 1, 1, 0, 1, 0, 3],
      [0, 0, 0, 0, 0, 0, 0]]
    goal := ⟨6, 3⟩
    hint := "The bottom row is the shortest way around."
    solution := route "[\"right\", 1, \"left\", 2, \"right\", 2, \"left\", 3, \"left\", 1]" },
  { id := "obstacle-course"
    title := "Obstacle Course"
    description :=
      "Navigate through a complex obstacle course efficiently."
    difficulty := .hard
    codes := [
      [0, 0, 0, 1, 0, 0, 0, 0],
      [0, 2, 0, 1, 0, 1, 1, 0],
      [0, 1, 0, 0, 0, 0, 0, 0],
      [0, 1, 1, 1, 0, 1, 0, 3],
      [0, 0, 0, 0, 0, 1, 0, 0]]
    goal := ⟨7, 3⟩
    hint := "Find the long open corridor."
    solution := route "[1, \"right\", 1, \"left\", 5, \"right\", 1]" },
  { id := "the-ultimate-challenge"
    title := "The Ultimate Challenge"
    description :=
      "The most difficult maze. Can you solve it with the fewest steps?"
    difficulty := .hard
    codes := [
      [0, 0, 1, 0, 0, 0, 1, 0, 0],
      [0, 2, 1, 0, 1, 0, 1, 0, 3],
      [0, 0, 0, 0, 1, 0, 0, 0, 0],
      [0, 1, 1, 0, 1, 1, 1, 0, 0],
      [0, 0, 0, 0, 0, 0, 0, 0, 0]]
    goal := ⟨8, 1⟩
    hint := "Combine strategies: check front, try turns, and keep moving toward the goal!"
    solution := route ("[\"right\", 1, \"left\", 2, \"left\", 2, \"right\", 2, " ++
      "\"right\", 2, \"left\", 3, \"left\", 1]") }]

/-- The catalog of the levels, numbered from one. -/
def builtin : Catalog :=
  ofList (levels.zipIdx.filterMap fun (level, index) => level.puzzle? (index + 1))

end MazeRobot.Catalog
