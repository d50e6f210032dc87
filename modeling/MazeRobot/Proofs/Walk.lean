import MazeRobot.Proofs.Action
import MazeRobot.Proofs.Grid

/-!
# Traces are walks

Replaying a trace means going from the pose of one record to the pose of the
next. A trace is a walk if every record follows from the pose before it: a
move goes one cell ahead, a turn goes once around the cycle of headings to the
side that its message names, a line changes nothing, and no record stands
outside the grid or in a wall. The trace of every run of every text is a walk
from the start cell, facing east.
-/

namespace MazeRobot

/-- Where a robot stands and which way it faces. -/
structure Pose where
  /-- Where it stands. -/
  position : Coord
  /-- Which way it faces. -/
  heading : Heading
  deriving DecidableEq, Repr

/-- The pose of a robot. -/
def Robot.pose (r : Robot) : Pose := ⟨r.position, r.heading⟩

namespace Record

/-- The pose that a record tells. -/
def pose (record : Record) : Pose := ⟨record.position, record.orientation⟩

/-- What a record may tell if the robot had a pose before it. -/
def Follows (record : Record) (before : Pose) : Prop :=
  match record.kind with
  | .move =>
    record.position.IsAt before.position before.heading.delta ∧
      record.orientation = before.heading
  | .turn =>
    record.position = before.position ∧
      ∃ t : Turn, record.orientation = before.heading.turned t ∧
        record.message = Robot.turnedMessage t record.orientation
  | .log => record.position = before.position ∧ record.orientation = before.heading

/-- The record stands on a cell of the grid that is no wall. -/
def StandsIn (record : Record) (g : Grid) : Prop :=
  g.inBounds record.position = true ∧ g.isWall record.position = false

end Record

/-- The records are a legal walk in a grid from one pose to another. -/
def Walk (g : Grid) : Pose → List Record → Pose → Prop
  | before, [], after => before = after
  | before, record :: rest, after =>
    record.Follows before ∧ record.StandsIn g ∧ Walk g record.pose rest after

/-- A walk goes on by one record that follows from its end. -/
theorem Walk.snoc {g : Grid} {start finish : Pose} {records : List Record} {record : Record}
    (hw : Walk g start records finish) (hf : record.Follows finish) (hs : record.StandsIn g) :
    Walk g start (records ++ [record]) record.pose := by
  induction records generalizing start with
  | nil =>
    cases hw
    exact ⟨hf, hs, rfl⟩
  | cons first rest ih =>
    obtain ⟨hfirst, hin, hrest⟩ := hw
    exact ⟨hfirst, hin, ih hrest⟩

namespace Robot

/-- The trace of a robot is a walk from a pose to its own, and it stands on a
free cell. -/
structure Walked (start : Pose) (r : Robot) : Prop where
  /-- The grid fits into the coordinates. -/
  addressable : r.grid.Addressable
  /-- The trace leads to where the robot is. -/
  walk : Walk r.grid start r.trace.toList r.pose
  /-- The robot stands on a free cell. -/
  free : r.grid.isPassable r.position = true

/-- One more record that leads to the pose of the robot. -/
theorem Walked.extend {start : Pose} {r s : Robot} (h : Walked start r) {record : Record}
    (hgrid : s.grid = r.grid) (htrace : s.trace.toList = r.trace.toList ++ [record])
    (hpose : record.pose = s.pose) (hf : record.Follows r.pose)
    (hfree : r.grid.isPassable record.position = true) : Walked start s where
  addressable := by
    rw [hgrid]
    exact h.addressable
  walk := by
    rw [hgrid, htrace, ← hpose]
    exact h.walk.snoc hf ((Grid.isPassable_iff _ _).mp hfree)
  free := by
    have hp : record.position = s.position := congrArg Pose.position hpose
    rwa [hgrid, ← hp]

/-- Every elementary action goes on with the walk. -/
theorem Action.walked {start : Pose} {r s : Robot} (ha : Action r s) (h : Walked start r) :
    Walked start s := by
  cases ha with
  | note message => exact h.extend rfl (toList_note r message) rfl ⟨rfl, rfl⟩ h.free
  | advance left free =>
    -- The cell that is left is in bounds, so the step from it does not wrap around.
    have hb := ((Grid.isPassable_iff _ _).mp h.free).1
    have hat := Grid.isAt_offset h.addressable hb r.heading
    exact h.extend rfl (toList_advance r) rfl ⟨hat, rfl⟩ free
  | rotate left t => exact h.extend rfl (toList_rotate r t) rfl ⟨rfl, t, rfl, rfl⟩ h.free
  | finish => exact ⟨h.addressable, h.walk, h.free⟩
  | refuse used => exact ⟨h.addressable, h.walk, h.free⟩

/-- A robot that has done nothing yet walked nowhere. -/
theorem walked_init {g : Grid} (ha : g.Addressable) {start : Coord}
    (hs : g.findStart = .ok start) (goal : Coord) (maxSteps : UInt32) :
    Walked ⟨start, .east⟩ (init g start goal maxSteps) where
  addressable := ha
  walk := rfl
  free := Grid.isPassable_of_findStart ha hs

end Robot

open Robot

/-- Whatever a text was read as, the trace of its run is a legal walk that begins at the
start cell and faces east. -/
theorem Run.execute_walk {σ : Type} (reading : Except String (Behaviour σ))
    (config : EngineConfig) {grid : Grid} {start : Coord} (hs : grid.findStart = .ok start)
    (ha : grid.Addressable) (goal : Coord) :
    ∃ report, Run.execute config reading grid goal = .ok report ∧ report.start = start ∧
      ∃ finish, Walk grid ⟨report.start, .east⟩ report.trace.toList finish := by
  have hacts := acts_closed_attempt reading config.maxTicks (init grid start goal config.maxSteps)
  have hw := hacts.keep Action.walked (walked_init ha hs goal config.maxSteps)
  have hwalk := hw.walk
  rw [hacts.task.1] at hwalk
  exact ⟨_, execute_of_findStart reading config hs goal, rfl, _, hwalk⟩

/-- The trace of every run of every text is a legal walk that begins at the
start cell and faces east. -/
theorem Engine.execute_trace_walk (config : EngineConfig) {grid : Grid} {start : Coord}
    (hs : grid.findStart = .ok start) (ha : grid.Addressable) (goal : Coord) (code : String) :
    ∃ report, Engine.execute config grid goal code = .ok report ∧ report.start = start ∧
      ∃ finish, Walk grid ⟨report.start, .east⟩ report.trace.toList finish :=
  Run.execute_walk (Engine.reading config code) config hs ha goal

/-- A walk through a small grid, with moves that are stopped half way. -/
theorem Engine.execute_trace_walk_crossing :
    Grid.crossing.findStart = .ok ⟨0, 1⟩ ∧ Grid.crossing.Addressable ∧
      ∃ report, Engine.execute {} .crossing ⟨2, 2⟩
          "fn update() \x7b if !move(3) \x7b turn(\"left\"); \x7d \x7d" = .ok report ∧
        report.start = ⟨0, 1⟩ ∧
        ∃ finish, Walk .crossing ⟨report.start, .east⟩ report.trace.toList finish :=
  ⟨rfl, by decide, Engine.execute_trace_walk {} rfl (by decide) _ _⟩

end MazeRobot
