/-!
# Cell coordinates

A cell is addressed by its column and its row, each a 32-bit word. Rows grow
southwards, so north is the direction of falling `y`. Offsets wrap around at
the ends of the word; inside a grid they never reach one.
-/

namespace MazeRobot

/-- Column and row of a cell. -/
structure Coord where
  /-- Column, growing eastwards. -/
  x : Int32
  /-- Row, growing southwards. -/
  y : Int32
  deriving DecidableEq, Repr, Inhabited, Hashable

namespace Coord

/-- The cell reached by adding the components of `delta`, wrapping around at
the ends of the word. -/
def offset (here delta : Coord) : Coord :=
  ⟨here.x + delta.x, here.y + delta.y⟩

/-- A coordinate reads as a parenthesised pair, column first. -/
def text (c : Coord) : String :=
  s!"({c.x.toInt}, {c.y.toInt})"

/-- Undoing an offset by the opposite offset leads back. -/
theorem offset_neg (here delta : Coord) :
    (here.offset delta).offset ⟨-delta.x, -delta.y⟩ = here := by
  have cancel (a b : Int32) : a + b + -b = a := by
    rw [Int32.add_assoc, Int32.add_right_neg, Int32.add_zero]
  cases here
  cases delta
  simp only [offset, cancel]

end Coord

end MazeRobot
