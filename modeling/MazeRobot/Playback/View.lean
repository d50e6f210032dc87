import MazeRobot.Trace

/-!
# What a viewer sees

The view of a playback is the fold of the records applied so far, from the
start of the run, and a flag that tells whether a success is being celebrated.
-/

namespace MazeRobot.Playback

/-- What a viewer of a run sees. -/
structure View where
  /-- Where the robot stands. -/
  position : Coord
  /-- Which way it faces. -/
  heading : Heading
  /-- The cells it walked through, the first one included. -/
  path : Array Coord
  /-- The lines of all records. -/
  logs : Array String
  /-- How many records were applied. -/
  applied : Nat
  /-- Whether a success is being celebrated. -/
  celebrating : Bool
  deriving DecidableEq, Repr

namespace View

/-- The view before the first record. -/
def atStart (start : Coord) : View where
  position := start
  heading := .east
  path := #[start]
  logs := #[]
  applied := 0
  celebrating := false

/-- The view after one more record. -/
def apply (v : View) (r : Record) : View where
  position := r.position
  heading := r.orientation
  path := if r.kind = .move then v.path.push r.position else v.path
  logs := v.logs.push r.message
  applied := v.applied + 1
  celebrating := v.celebrating

/-- The view after some records. -/
def applyAll (v : View) (records : List Record) : View :=
  records.foldl apply v

theorem applyAll_append_singleton (v : View) (records : List Record) (r : Record) :
    v.applyAll (records ++ [r]) = (v.applyAll records).apply r := by
  simp only [applyAll, List.foldl_append, List.foldl_cons, List.foldl_nil]

theorem applied_applyAll (v : View) (records : List Record) :
    (v.applyAll records).applied = v.applied + records.length := by
  induction records generalizing v with
  | nil => rfl
  | cons r rest ih =>
    rw [applyAll, List.foldl_cons]
    exact (ih (v.apply r)).trans (by simp only [apply, List.length_cons]; omega)

end View

end MazeRobot.Playback
