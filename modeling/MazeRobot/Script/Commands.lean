import MazeRobot.Dialogue
import MazeRobot.Script.Failure

/-!
# Commands

The functions by which a script reaches the robot: which call each of them
makes, and what value the reply becomes. A refused step is thrown as a text.
-/

namespace MazeRobot.Script.Commands

/-- The call that a function makes. A direction is a text or left out. -/
def call? (name : String) (arguments : List Value) : Option Call :=
  match name, arguments with
  | "move", [] => some (.move 1)
  | "move", [.int n] => some (.move n)
  | "turn", [.string word] => some (.turn word)
  | "is_empty", [] => some (.isEmpty none)
  | "is_empty", [.string word] => some (.isEmpty (some word))
  | "is_goal", [] => some (.isGoal none)
  | "is_goal", [.string word] => some (.isGoal (some word))
  | "has_visited", [] => some (.hasVisited none)
  | "has_visited", [.string word] => some (.hasVisited (some word))
  | "visit_count", [] => some (.visitCount none)
  | "visit_count", [.string word] => some (.visitCount (some word))
  | "get_visited_cells", [] => some .visitedCells
  | "get_position", [] => some .position
  | "get_goal", [] => some .goal
  | "log", [.string text] => some (.log text)
  | "done", [] => some .finish
  | "print", [] => some (.log "")
  | "print", [v] => some (.log v.printed)
  | "debug", [] => some (.log "")
  | "debug", [v] => some (.log v.shown)
  | _, _ => none

/-- An integer of 32 bits as a value. -/
def number (n : Int32) : Value := .int (Int64.ofInt n.toInt)

/-- A cell as a map. -/
def cell (c : Coord) : Value :=
  .map [("x", number c.x), ("y", number c.y)]

/-- A visited cell as a map. -/
def visitedCell (v : VisitedCell) : Value :=
  .map [("count", .ofNat v.count.toNat), ("x", number v.cell.x), ("y", number v.cell.y)]

/-- The value that a reply becomes. -/
def value : (c : Call) → c.Reply → Except Cause Value
  | .move _, .ok moved => .ok (.bool moved)
  | .move _, .error refusal => .error (.thrown (.string refusal.message))
  | .turn _, .ok () => .ok .unit
  | .turn _, .error refusal => .error (.thrown (.string refusal.message))
  | .isEmpty _, b | .isGoal _, b | .hasVisited _, b => .ok (.bool b)
  | .visitCount _, n => .ok (.ofNat n.toNat)
  | .visitedCells, cells => .ok (.array (cells.map visitedCell).toArray)
  | .position, c | .goal, c => .ok (cell c)
  | .log _, () | .finish, () => .ok .unit

end MazeRobot.Script.Commands
