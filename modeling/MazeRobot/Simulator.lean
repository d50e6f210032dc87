import MazeRobot.Engine
import MazeRobot.Puzzle
import MazeRobot.Session

/-!
# Simulators

A simulator runs scripts and shows one run at a time: as a playback that its
owner drives frame by frame, or as a session with a worker. Whatever is shown
is stopped before anything else begins. Every run has a taker for its result;
what the takers got is kept in the order of the runs.
-/

namespace MazeRobot

/-- An engine and at most one run being shown. -/
structure Simulator where
  /-- The configuration of this and all later runs. -/
  config : Config
  /-- The playback that the owner drives. -/
  playback : Option Playback
  /-- The events of that playback that nobody asked for yet. -/
  pending : List Playback.Event
  /-- The session with a worker. -/
  session : Option Session
  /-- What the takers of former runs got. -/
  former : List (List RunResult)

namespace Simulator

/-- A simulator that shows nothing. -/
def ofConfig (config : Config) : Simulator where
  config := config
  playback := none
  pending := []
  session := none
  former := []

/-- What the taker of the run being shown got, if that run has a taker. -/
def current (s : Simulator) : List (List RunResult) :=
  (s.playback.bind (·.sink)).toList ++ (s.session.bind (·.playback.sink)).toList

/-- What the takers of all runs got, in the order of the runs. -/
def submissions (s : Simulator) : List (List RunResult) :=
  s.former ++ s.current

/-- How far the playback is. A session counts for nothing here. -/
def state (s : Simulator) : Playback.State :=
  match s.playback with
  | some p => p.state
  | none => .idle

/-- What the viewer of the playback sees. -/
def view (s : Simulator) : Option Playback.View :=
  s.playback.map (·.view)

/-- Stops whatever is shown; `waking` is what wakes the worker of a session. -/
def cancel (s : Simulator) (waking : Session.Waking) : Simulator :=
  let stopped : Simulator := { s with
    playback := s.playback.map fun p => (p.perform .cancel).1
    session := s.session.map (·.close waking) }
  { config := s.config
    playback := none
    pending := []
    session := none
    former := stopped.submissions }

/-- The report on a script in a puzzle. -/
def execute (s : Simulator) (puzzle : Puzzle) (code : String) : Except GridDefect Report :=
  Engine.execute s.config.engine puzzle.grid puzzle.goal code

/-- The simulator after a run that could not be made: its taker gets nothing. -/
def failed (s : Simulator) : Simulator :=
  { s with former := s.former ++ [[]] }

/-- Runs a script and plays the report. -/
def run (s : Simulator) (waking : Session.Waking) (puzzle : Puzzle) (code : String) :
    Simulator × Except GridDefect Report :=
  let s := s.cancel waking
  match s.execute puzzle code with
  | .error defect => (s.failed, .error defect)
  | .ok report =>
    match (Playback.ofReport report s.config.playback true).perform .play with
    | (p, events) => ({ s with playback := some p, pending := events }, .ok report)

/-- Runs a script and gives the report to a worker. -/
def runBeside (s : Simulator) (waking : Session.Waking) (puzzle : Puzzle) (code : String) :
    Simulator × Except GridDefect Unit :=
  let s := s.cancel waking
  match s.execute puzzle code with
  | .error defect => (s.failed, .error defect)
  | .ok report =>
    ({ s with session := some (.spawn (.ofReport report s.config.playback true)) }, .ok ())

/-- Runs a script when no worker can be found for the report: the run has failed
whatever the report is. -/
def runUnstaffed (s : Simulator) (waking : Session.Waking) : Simulator :=
  (s.cancel waking).failed

/-- Shows a stored report. Nobody takes its result. -/
def load (s : Simulator) (waking : Session.Waking) (report : Report) : Simulator :=
  let s := s.cancel waking
  { s with playback := some (.ofReport report s.config.playback false) }

/-- Does something with the playback, if there is one, and tells whether it
was done. -/
def operate (s : Simulator) (op : Playback.Operation) : Simulator × Bool :=
  match s.playback with
  | none => (s, false)
  | some p =>
    match p.attempt op with
    | none => (s, false)
    | some (p, events) => ({ s with playback := some p, pending := s.pending ++ events }, true)

/-- Takes the events that nobody asked for yet. -/
def drain (s : Simulator) : Simulator × List Playback.Event :=
  ({ s with pending := [] }, s.pending)

/-- Lets time go by and gives all events since the last time. -/
def update (s : Simulator) (elapsed : Span) : Simulator × List Playback.Event :=
  (s.operate (.advance elapsed)).1.drain

/-- Changes the delay of the playback and of everything shown later. -/
def setDelay (s : Simulator) (wanted : Span) : Simulator :=
  let s := { s with
    config := { s.config with
      playback := { s.config.playback with delay := wanted.millisWord } } }
  (s.operate (.setDelay wanted)).1

/-- Lets the worker of the session make a move, if there is one and the move
is possible. -/
def work (s : Simulator) (move : Session.Move) : Simulator :=
  { s with session := s.session.map (·.tryMove move) }

/-- Reads the events of the session until a wanted one. -/
def awaitEvent (s : Simulator) (wanted : Playback.Event → Bool) :
    Simulator × List Playback.Event :=
  match s.session with
  | none => (s, [])
  | some session =>
    match session.awaitEvent wanted with
    | (groups, session) => ({ s with session := some session }, groups.flatMap (·.2))

/-- What can be done with a simulator. -/
inductive Operation where
  /-- Run a script and play the report. -/
  | run (puzzle : Puzzle) (code : String)
  /-- Run a script and give the report to a worker. -/
  | runBeside (puzzle : Puzzle) (code : String)
  /-- Run a script when no worker can be found for the report. -/
  | runUnstaffed (puzzle : Puzzle) (code : String)
  /-- Show a stored report. -/
  | load (report : Report)
  /-- Let time go by. -/
  | update (elapsed : Span)
  /-- Start the playback. -/
  | play
  /-- Hold it. -/
  | pause
  /-- Let it go on. -/
  | resume
  /-- Hold it or let it go on. -/
  | toggle
  /-- Apply one record. -/
  | step
  /-- Make it ready to play again. -/
  | rewind
  /-- Change the delay. -/
  | setDelay (wanted : Span)
  /-- Stop the playback and go back to the start. -/
  | reset
  /-- Stop whatever is shown. -/
  | cancel
  /-- Let the worker make a move. -/
  | work (move : Session.Move)

/-- A simulator after an operation; `waking` is what wakes a worker that is
being stopped. -/
def perform (s : Simulator) (waking : Session.Waking) : Operation → Simulator
  | .run puzzle code => (s.run waking puzzle code).1
  | .runBeside puzzle code => (s.runBeside waking puzzle code).1
  | .runUnstaffed _ _ => s.runUnstaffed waking
  | .load report => s.load waking report
  | .update elapsed => (s.update elapsed).1
  | .play => (s.operate .play).1
  | .pause => (s.operate .pause).1
  | .resume => (s.operate .resume).1
  | .toggle => (s.operate .toggle).1
  | .step => (s.operate .step).1
  | .rewind => (s.operate .rewind).1
  | .setDelay wanted => s.setDelay wanted
  | .reset => (s.operate .reset).1
  | .cancel => s.cancel waking
  | .work move => s.work move

/-- A simulator after operations, one after the other, each with what wakes a
worker that is being stopped by it. -/
def performAll (ops : List (Session.Waking × Operation)) (s : Simulator) : Simulator :=
  ops.foldl (fun s (waking, op) => s.perform waking op) s

end Simulator

end MazeRobot
