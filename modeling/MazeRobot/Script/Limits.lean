/-!
# Limits

What a script may use up. Zero means no limit, except for the nesting of calls.
-/

namespace MazeRobot.Script

/-- The limits on one script. -/
structure Limits where
  /-- How many steps of evaluation the top level or a callback may take. -/
  operations : Nat
  /-- How deep calls may nest. -/
  callLevels : Nat
  /-- How deep terms may nest. -/
  depth : Nat
  /-- How many bytes a text may have. -/
  stringSize : Nat
  /-- How many items an array or a map may have. -/
  collectionSize : Nat
  deriving DecidableEq, Repr

namespace Limits

/-- Whether a size is beyond a limit. -/
def exceeded (limit size : Nat) : Bool :=
  limit != 0 && limit < size

end Limits

end MazeRobot.Script
