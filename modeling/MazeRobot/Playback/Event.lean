import MazeRobot.Report

/-!
# States and events of a playback

Everything that a viewer could notice is an event with a line of its own.
-/

namespace MazeRobot.Playback

/-- How far a playback is. -/
inductive State where
  /-- It waits to be started. -/
  | idle
  /-- It applies a record after every delay. -/
  | playing
  /-- It holds still and can go on. -/
  | paused
  /-- It came to its end by itself. -/
  | finished
  /-- It was stopped for good. -/
  | cancelled
  deriving DecidableEq, Repr

/-- The name of a state. -/
def State.name : State → String
  | idle => "Idle"
  | playing => "Playing"
  | paused => "Paused"
  | finished => "Finished"
  | cancelled => "Cancelled"

/-- A change that can be noticed. -/
inductive Event where
  /-- A record was applied. -/
  | applied (index : Nat) (record : Record)
  /-- The state changed. -/
  | changed (before after : State)
  /-- The delay is so many milliseconds from now on. -/
  | delayChanged (millis : Nat)
  /-- All records were played. -/
  | finished (result : RunResult)
  /-- A success begins to be celebrated. -/
  | celebrationStarted
  /-- The celebration is over. -/
  | celebrationEnded
  /-- The records will be played once more. -/
  | rewound
  deriving DecidableEq, Repr

/-- The line of an event. -/
def Event.text : Event → String
  | applied index record =>
    s!"RecordApplied index={index} kind={record.kind.name} message={record.message}"
  | changed before after => s!"StateChanged {before.name} -> {after.name}"
  | delayChanged millis => s!"DelayChanged millis={millis}"
  | finished result => s!"Finished completed={result.completed} steps={result.steps.toNat}"
  | celebrationStarted => "CelebrationStarted"
  | celebrationEnded => "CelebrationEnded"
  | rewound => "Rewound"

end MazeRobot.Playback
