import MazeRobot.Playback

/-!
# Observed playbacks

A playback keeps its events until its owner takes them. Taking them is no
operation of the playback, and nothing is lost or told twice by it: what was
taken so far and what is still kept are the events of the operations alone.
-/

namespace MazeRobot.Playback

/-- What the owner of a playback does with it or with its events. -/
inductive Use where
  /-- An operation. -/
  | perform (op : Operation)
  /-- The events that are kept are taken. -/
  | drain
  deriving DecidableEq, Repr

/-- The operation of a use, if it is one. -/
def Use.operation? : Use → Option Operation
  | perform op => some op
  | drain => none

/-- A playback with the events that nobody took yet. -/
structure Observed where
  /-- The playback. -/
  playback : Playback
  /-- The events, oldest first. -/
  kept : List Event
  deriving DecidableEq, Repr

namespace Observed

/-- A playback of a report that was not started yet and has no events. -/
def ofReport (report : Report) (config : PlaybackConfig) (taken : Bool) : Observed where
  playback := .ofReport report config taken
  kept := []

/-- The playback after a use, and the events that were taken by it. -/
def use (o : Observed) : Use → Observed × List Event
  | .perform op =>
    match o.playback.perform op with
    | (p, events) => (⟨p, o.kept ++ events⟩, [])
  | .drain => (⟨o.playback, []⟩, o.kept)

/-- The playback after uses, one after the other, and all events that were
taken by them. -/
def useAll : List Use → Observed → Observed × List Event
  | [], o => (o, [])
  | u :: rest, o =>
    let (o, taken) := o.use u
    let (o, later) := useAll rest o
    (o, taken ++ later)

/-- The playback after uses is the one after their operations. -/
theorem playback_useAll (uses : List Use) (o : Observed) :
    (useAll uses o).1.playback =
      (performAll (uses.filterMap Use.operation?) o.playback).1 := by
  induction uses generalizing o with
  | nil => rfl
  | cons u rest ih =>
    cases u with
    | perform op => exact ih _
    | drain => exact ih _

/-- What was taken and what is kept are the events of the operations. -/
theorem events_useAll (uses : List Use) (o : Observed) :
    (useAll uses o).2 ++ (useAll uses o).1.kept =
      o.kept ++ (performAll (uses.filterMap Use.operation?) o.playback).2 := by
  induction uses generalizing o with
  | nil => exact (List.append_nil _).symm
  | cons u rest ih =>
    cases u with
    | perform op =>
      have h := ih (o.use (.perform op)).1
      exact h.trans (List.append_assoc _ _ _)
    | drain =>
      have h := ih (o.use .drain).1
      exact (List.append_assoc _ _ _).trans (congrArg (o.kept ++ ·) h)

/-- When the events were just taken, none is kept. -/
theorem kept_useAll_drain (uses : List Use) (o : Observed) :
    (useAll (uses ++ [.drain]) o).1.kept = [] := by
  induction uses generalizing o with
  | nil => rfl
  | cons u rest ih => exact ih (o.use u).1

end Observed

end MazeRobot.Playback
