import MazeRobot.Script.Failure
import MazeRobot.Script.Limits

/-!
# Room

Values of any depth are held against the limits on texts, arrays and maps. The
sizes of all parts of a value count together, so a value that is too large may
be made of parts that are not.
-/

namespace MazeRobot.Script.Limits

/-- The first limit that a size is beyond: that on texts, on arrays or on
maps. -/
def excess? (limits : Limits) (size : Value.Size) : Option Limit :=
  if exceeded limits.stringSize size.bytes then some .string
  else if exceeded limits.collectionSize size.items then some .array
  else if exceeded limits.collectionSize size.entries then some .map
  else none

/-- The limit that a value is beyond. -/
def excessOf? (limits : Limits) (v : Value) : Option Limit :=
  match v.bare with
  | .string _ | .array _ | .blob _ | .map _ => limits.excess? v.size
  | _ => none

/-- Nothing at all is beyond no limit. -/
theorem excess?_zero (limits : Limits) : limits.excess? .zero = none := by
  simp [excess?, exceeded, Value.Size.zero]

end MazeRobot.Script.Limits
