import MazeRobot.Grid
import MazeRobot.Json.Decode

/-!
# Grids as JSON

A grid is written as its rows of codes. Reading takes all rows before it looks
whether they make a grid.
-/

namespace MazeRobot.Grid

/-- A grid as an array of rows of codes. -/
def toJson (g : Grid) : Json :=
  .array (g.toCodes.map fun row => .array (row.map fun code => .number code.toNat))

/-- Reads a grid. -/
def decode : Decoder Grid := fun s =>
  match Decoder.list (Decoder.list Decoder.uint8) s with
  | .error f => .error f
  | .ok codes =>
    match ofCodes codes with
    | .ok g => .ok g
    | .error _ => .error .mismatched

end MazeRobot.Grid
