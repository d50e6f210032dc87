import MazeRobot.Program
import MazeRobot.Session.Worker

/-!
# Watching a run

While the program shows a run, it and the worker take steps in any order. The
program prints what it is sent, event by event, and waits where nothing was
sent yet. Behind the last event it raises the flag, queues a cancel and waits
until the worker has left. Nobody else has a say: the worker is woken by its
timer, never before that is due, or by the cancel.
-/

namespace MazeRobot.Program

/-- What the viewer of a run is at. -/
inductive Viewer where
  /-- It prints events until the last one. -/
  | reading
  /-- It is about to raise the flag. -/
  | signalling
  /-- It is about to queue the cancel. -/
  | cancelling
  /-- It waits until the worker has left. -/
  | joining
  /-- It is done. -/
  | done
  deriving DecidableEq, Repr

/-- A worker and the viewer of its run. -/
structure Watching where
  /-- The worker. -/
  worker : Session.Worker
  /-- What the viewer is at. -/
  viewer : Viewer
  /-- How many of the events that were sent it has read. -/
  seen : Nat
  /-- What it has printed. -/
  output : String
  deriving DecidableEq, Repr

namespace Watching

/-- A step of the worker or of the viewer. -/
inductive Act where
  /-- The worker makes a step of its own. -/
  | work (one : Session.Step)
  /-- The viewer reads an event, or notices that there will be none. -/
  | read
  /-- The viewer raises the flag. -/
  | raise
  /-- The viewer queues the cancel. -/
  | cancel
  /-- The viewer notices that the worker has left. -/
  | join
  deriving DecidableEq, Repr

/-- The title and the maze are printed, and the worker was just given the
playback. -/
def begin (puzzle : Puzzle) (p : Playback) : Watching where
  worker := .spawn p
  viewer := .reading
  seen := 0
  output := heading puzzle

/-- Whether a step of a worker may be made by now: its timer does not fire
before the time that it was set for is over. -/
def isDue (w : Session.Worker) : Session.Step → Bool
  | .move (.timer elapsed) => w.observed.playback.timeUntilNext.any (·.nanos ≤ elapsed.nanos)
  | _ => true

/-- What the viewer is at behind an event. -/
def viewerAfter (event : Playback.Event) : Viewer :=
  if isLast event then .signalling else .reading

/-- The viewer reads the next event. It goes on without one if none will come,
as the worker has left. -/
def readNext (w : Watching) : Option Watching :=
  match w.worker.sent[w.seen]? with
  | some event =>
    some { w with
      viewer := viewerAfter event
      seen := w.seen + 1
      output := w.output ++ eventText event }
  | none => if w.worker.point = .stopped then some { w with viewer := .signalling } else none

/-- The worker and its viewer after a step, if the step is possible. A cancel
that comes too late is dropped. -/
def act (w : Watching) : Act → Option Watching
  | .work one =>
    if one.isOwn ∧ isDue w.worker one then
      (w.worker.step one).map fun worker => { w with worker := worker }
    else none
  | .read => if w.viewer = .reading then w.readNext else none
  | .raise =>
    if w.viewer = .signalling then
      (w.worker.move .raise).map fun worker => { w with worker := worker, viewer := .cancelling }
    else none
  | .cancel =>
    if w.viewer = .cancelling then
      some { w with
        worker := (w.worker.move (.enqueue .cancel)).getD w.worker
        viewer := .joining }
    else none
  | .join =>
    if w.viewer = .joining ∧ w.worker.point = .stopped then some { w with viewer := .done }
    else none

/-- The worker and its viewer after steps, if all of them are possible. -/
def actAll : List Act → Watching → Option Watching
  | [], w => some w
  | a :: rest, w => (w.act a).bind (actAll rest)

end Watching

end MazeRobot.Program
