import MazeRobot.Config
import MazeRobot.Playback.Event
import MazeRobot.Playback.View

/-!
# Playback

A playback shows the trace of a report to a viewer, one record after every
delay. It is a machine without a clock: whoever owns it tells it how much time
went by. An operation gives the playback afterwards and the events that a
viewer could notice, in order; one that is refused gives nothing and changes
nothing. When all records were played and one more delay is over, the playback
finishes, and the first time it does so it hands the result in.
-/

namespace MazeRobot

/-- A report being shown. -/
structure Playback where
  /-- What is shown. -/
  report : Report
  /-- How far the playback is. -/
  state : Playback.State
  /-- How many records were applied. -/
  cursor : Nat
  /-- What the viewer sees. -/
  view : Playback.View
  /-- The pace that was asked for. -/
  config : PlaybackConfig
  /-- The time between two records. -/
  delay : Span
  /-- The time since the latest record. -/
  waited : Span
  /-- How much longer a success is celebrated, while it is. -/
  celebrationLeft : Option Span
  /-- The results that were handed in, if somebody takes them. -/
  sink : Option (List RunResult)
  /-- Whether the playback ever finished. -/
  submitted : Bool
  deriving DecidableEq, Repr

namespace Playback

/-- The shortest delay. -/
def leastDelay : Span := .ofMillis 1

/-- The delay for a wanted number of milliseconds. -/
def delayFor (config : PlaybackConfig) (millis : UInt64) : Span :=
  (config.clampDelay millis).max leastDelay

/-- A playback of a report that was not started yet. With `taken`, somebody
takes the result. -/
def ofReport (report : Report) (config : PlaybackConfig) (taken : Bool) : Playback where
  report := report
  state := .idle
  cursor := 0
  view := .atStart report.start
  config := config
  delay := delayFor config config.delay
  waited := .zero
  celebrationLeft := none
  sink := if taken then some [] else none
  submitted := false

/-- How many records there are. -/
def length (p : Playback) : Nat :=
  p.report.trace.length

/-- How many records were not applied yet. -/
def remaining (p : Playback) : Nat :=
  p.length - p.cursor

/-- The results that were handed in. -/
def submissions (p : Playback) : List RunResult :=
  p.sink.getD []

/-- Whether a success is being celebrated. -/
def isCelebrating (p : Playback) : Bool :=
  p.celebrationLeft.isSome

/-- Whether nothing will happen by itself any more. -/
def isSettled (p : Playback) : Bool :=
  match p.state with
  | .cancelled => true
  | .finished => !p.isCelebrating
  | _ => false

/-- A playback and the events on the way to it. -/
abbrev Change := Playback × List Event

/-- One change and, from where it led, another one. -/
def Change.andThen (o : Change) (next : Playback → Change) : Change :=
  match next o.1 with
  | (p, events) => (p, o.2 ++ events)

/-- Goes to a state, if the playback is not there already. -/
def moveTo (p : Playback) (target : State) : Change :=
  if p.state = target then (p, [])
  else ({ p with state := target }, [.changed p.state target])

/-- Applies the next record, if there is one. -/
def applyNext (p : Playback) : Change :=
  match p.report.trace.get? p.cursor with
  | none => (p, [])
  | some record =>
    ({ p with view := p.view.apply record, cursor := p.cursor + 1 }, [.applied p.cursor record])

/-- Ends the celebration, if there is one. -/
def endCelebration (p : Playback) : Change :=
  match p.celebrationLeft with
  | none => (p, [])
  | some _ =>
    ({ p with celebrationLeft := none, view := { p.view with celebrating := false } },
      [.celebrationEnded])

/-- The playback before its first record, in the state that it is in. -/
def toStart (p : Playback) : Playback :=
  { p with cursor := 0, waited := .zero, view := .atStart p.report.start }

/-- Hands the result in, unless that was done before. -/
def submit (p : Playback) : Playback :=
  if p.submitted then p
  else { p with submitted := true, sink := p.sink.map (· ++ [p.report.result]) }

/-- Begins to celebrate, if there is a success. -/
def celebrate (p : Playback) : Change :=
  if p.report.result.completed then
    ({ p with
        celebrationLeft := some p.config.celebrationSpan
        view := { p.view with celebrating := true } },
      [.celebrationStarted])
  else (p, [])

/-- Ends the playback in its natural way. -/
def finish (p : Playback) : Change :=
  (Change.andThen ({ p with waited := .zero }.moveTo .finished) fun p =>
    (p.submit, [.finished p.report.result])).andThen celebrate

/-- Starts an idle playback. The next record is applied at once. -/
def play (p : Playback) : Option Change :=
  if p.state = .idle then
    some ((p.moveTo .playing).andThen fun p => { p with waited := .zero }.applyNext)
  else none

/-- Holds a playback that is playing. -/
def pause (p : Playback) : Option Change :=
  if p.state = .playing then some (p.moveTo .paused) else none

/-- Lets a playback that is held go on. -/
def resume (p : Playback) : Option Change :=
  if p.state = .paused then some (p.moveTo .playing) else none

/-- Holds a playback that is playing and lets one that is held go on. -/
def toggle (p : Playback) : Option Change :=
  match p.state with
  | .playing => p.pause
  | .paused => p.resume
  | _ => none

/-- Whether records can be applied one by one in a state. -/
def State.isManual : State → Bool
  | idle | paused | finished => true
  | playing | cancelled => false

/-- Applies one record by hand. -/
def step (p : Playback) : Option Change :=
  if p.state.isManual && p.cursor < p.length then
    match p.applyNext with
    | (p, events) => some ({ p with waited := .zero }, events)
  else none

/-- Changes the delay. -/
def setDelay (p : Playback) (wanted : Span) : Change :=
  let delay := delayFor p.config wanted.millisWord
  ({ p with delay := delay }, [.delayChanged delay.millis])

/-- Stops the playback for good, and a celebration with it. A playback that
has finished stays finished. -/
def cancel (p : Playback) : Change :=
  match p.state with
  | .finished | .cancelled => p.endCelebration
  | _ => p.moveTo .cancelled

/-- Stops the playback and puts the robot back on its start. -/
def reset (p : Playback) : Change :=
  (p.cancel.andThen endCelebration).andThen fun p => (p.toStart, [])

/-- Makes a playback that is not playing ready to play all records again. -/
def rewind (p : Playback) : Option Change :=
  if p.state = .playing then none
  else
    some (((p.endCelebration.andThen fun p => p.toStart.moveTo .idle)).andThen fun p =>
      (p, [.rewound]))

/-- How long it takes until something happens by itself, if anything will. -/
def timeUntilNext (p : Playback) : Option Span :=
  match p.state with
  | .playing => some (p.delay.sub p.waited)
  | .finished => p.celebrationLeft
  | _ => none

/-- Lets the time of a celebration go by. -/
def advanceCelebration (p : Playback) (elapsed : Span) : Change :=
  match p.celebrationLeft with
  | none => (p, [])
  | some left =>
    if left.nanos ≤ elapsed.nanos then p.endCelebration
    else ({ p with celebrationLeft := some (left.sub elapsed) }, [])

/-- What happens when a delay is over: the next record is applied, or there is
none and the playback finishes. -/
def elapse (p : Playback) : Change :=
  if p.cursor < p.length then p.applyNext else p.finish

/-- Goes through the delays that are over, at most `count` of them. -/
def elapseAll : Nat → Playback → Change
  | 0, p => (p, [])
  | count + 1, p =>
    if p.state = .playing ∧ p.delay.nanos ≤ p.waited.nanos then
      Change.andThen ({ p with waited := p.waited.sub p.delay }.elapse) (elapseAll count)
    else (p, [])

/-- Lets time go by. There is one delay for each record that is left and one
more to finish, so no more need to be looked at. -/
def advance (p : Playback) (elapsed : Span) : Change :=
  (p.advanceCelebration elapsed).andThen fun p =>
    if p.state = .playing then
      { p with waited := p.waited.add elapsed }.elapseAll (p.remaining + 1)
    else (p, [])

/-- What the owner of a playback can do with it. -/
inductive Operation where
  /-- Start it. -/
  | play
  /-- Hold it. -/
  | pause
  /-- Let it go on. -/
  | resume
  /-- Hold it or let it go on. -/
  | toggle
  /-- Apply one record. -/
  | step
  /-- Change the delay. -/
  | setDelay (wanted : Span)
  /-- Let time go by. -/
  | advance (elapsed : Span)
  /-- Stop it for good. -/
  | cancel
  /-- Stop it and go back to the start. -/
  | reset
  /-- Make it ready to play again. -/
  | rewind
  deriving DecidableEq, Repr

/-- What an operation leads to, unless it is refused. -/
def attempt (p : Playback) : Operation → Option Change
  | .play => p.play
  | .pause => p.pause
  | .resume => p.resume
  | .toggle => p.toggle
  | .step => p.step
  | .setDelay wanted => some (p.setDelay wanted)
  | .advance elapsed => some (p.advance elapsed)
  | .cancel => some p.cancel
  | .reset => some p.reset
  | .rewind => p.rewind

/-- What an operation leads to. A refused one leads nowhere. -/
def perform (p : Playback) (op : Operation) : Change :=
  (p.attempt op).getD (p, [])

/-- What operations lead to, one after the other. -/
def performAll : List Operation → Playback → Change
  | [], p => (p, [])
  | op :: rest, p => (p.perform op).andThen (performAll rest)

theorem performAll_append (before after : List Operation) (p : Playback) :
    performAll (before ++ after) p = (performAll before p).andThen (performAll after) := by
  induction before generalizing p with
  | nil => simp [performAll, Change.andThen]
  | cons op rest ih => simp [performAll, Change.andThen, ih, List.append_assoc]

end Playback

end MazeRobot
