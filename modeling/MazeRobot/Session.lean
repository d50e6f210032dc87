import MazeRobot.Playback

/-!
# Sessions

A session is a playback in the hands of a worker that runs beside its clients.
Clients put commands in a queue and may raise a flag that stops the worker;
the worker sleeps until a timer or a command wakes it, lets the time since its
latest waking go by, obeys, and sends all events to whoever watches. Clients
and worker take turns in any order: a session is a system of small moves, and
everything that can happen is a sequence of moves that are possible where they
are made.
-/

namespace MazeRobot

namespace Session

/-- What a client may ask of the worker. -/
inductive Command where
  /-- Start the playback. -/
  | play
  /-- Hold it. -/
  | pause
  /-- Let it go on. -/
  | resume
  /-- Hold it or let it go on. -/
  | toggle
  /-- Apply one record. -/
  | step
  /-- Change the delay. -/
  | setDelay (wanted : Span)
  /-- Make it ready to play again. -/
  | rewind
  /-- Stop it and go back to the start. -/
  | reset
  /-- Stop it for good, and the worker with it. -/
  | cancel
  deriving DecidableEq, Repr

/-- What a command does to the playback. -/
def Command.operation : Command → Playback.Operation
  | play => .play
  | pause => .pause
  | resume => .resume
  | toggle => .toggle
  | step => .step
  | setDelay wanted => .setDelay wanted
  | rewind => .rewind
  | reset => .reset
  | cancel => .cancel

/-- What the worker is at. -/
inductive Stage where
  /-- It is about to look at the flag. -/
  | checking
  /-- It sleeps until something wakes it. -/
  | waiting
  /-- It has left. -/
  | stopped
  deriving DecidableEq, Repr

/-- A small move of a client or of the worker. A waking comes with the time
since the one before. -/
inductive Move where
  /-- A client raises the flag. -/
  | raise
  /-- A client queues a command. -/
  | enqueue (command : Command)
  /-- The last client goes away. -/
  | release
  /-- The worker looks at the flag. -/
  | check
  /-- The timer wakes the worker. -/
  | timer (elapsed : Span)
  /-- The next command wakes the worker. -/
  | take (elapsed : Span)
  /-- The worker notices that nobody will queue anything any more. -/
  | hangUp (elapsed : Span)
  deriving DecidableEq, Repr

end Session

/-- A playback in the hands of a worker. -/
structure Session where
  /-- The playback. -/
  playback : Playback
  /-- Commands that the worker did not take yet, oldest first. -/
  queue : List Session.Command
  /-- Whether the flag was raised. -/
  cancelled : Bool
  /-- Whether all clients are gone. -/
  released : Bool
  /-- What the worker is at. -/
  stage : Session.Stage
  /-- All events that were sent so far. -/
  sent : Array Playback.Event
  /-- How many of them were read. -/
  seen : Nat

namespace Session

/-- A session whose playback changed, and which sent the events of it. -/
def forward (s : Session) (change : Playback.Change) : Session :=
  { s with playback := change.1, sent := s.sent ++ change.2 }

/-- Puts a playback in the hands of a worker, who plays it at once. -/
def spawn (p : Playback) : Session :=
  forward
    { playback := p
      queue := []
      cancelled := false
      released := false
      stage := .checking
      sent := #[]
      seen := 0 }
    (p.perform .play)

/-- The session after a waking: the time goes by, the operations are done, and
then the worker looks at the flag again. -/
def wake (s : Session) (elapsed : Span) (operations : List Playback.Operation) : Session :=
  { s.forward (Playback.performAll (.advance elapsed :: operations) s.playback) with
    stage := .checking }

/-- The session after the worker stopped its playback and left. -/
def stop (s : Session) (operations : List Playback.Operation) : Session :=
  { s.forward (Playback.performAll operations s.playback) with stage := .stopped }

/-- The session after a move, if the move is possible. Nothing can be queued
for a worker that has left. -/
def move (s : Session) : Move → Option Session
  | .raise => some { s with cancelled := true }
  | .enqueue command =>
    if s.stage = .stopped then none else some { s with queue := s.queue ++ [command] }
  | .release => some { s with released := true }
  | .check =>
    if s.stage = .checking then
      if s.cancelled then some (s.stop [.cancel]) else some { s with stage := .waiting }
    else none
  | .timer elapsed =>
    if s.stage = .waiting ∧ s.playback.timeUntilNext.isSome then some (s.wake elapsed [])
    else none
  | .take elapsed =>
    match s.stage, s.queue with
    | .waiting, command :: rest =>
      some ({ s with queue := rest }.wake elapsed [command.operation])
    | _, _ => none
  | .hangUp elapsed =>
    if s.stage = .waiting ∧ s.queue = [] ∧ s.released then
      some (s.stop [.advance elapsed, .cancel])
    else none

/-- The session after moves, if all of them are possible. -/
def moveAll : List Move → Session → Option Session
  | [], s => some s
  | m :: rest, s => (s.move m).bind (moveAll rest)

/-- A session after a move, or as it was if the move is not possible. -/
def tryMove (s : Session) (m : Move) : Session :=
  (s.move m).getD s

/-- Whether the worker is still there. -/
def isAlive (s : Session) : Bool :=
  s.stage != .stopped

/-- Sends a command. A cancel raises the flag first. -/
def send (s : Session) (command : Command) : Session :=
  (if command = .cancel then s.tryMove .raise else s).tryMove (.enqueue command)

/-- Lets the worker take at most `count` turns, in no time at all. -/
def serve : Nat → Session → Session
  | 0, s => s
  | count + 1, s =>
    match s.stage, s.queue with
    | .checking, _ => serve count (s.tryMove .check)
    | .waiting, _ :: _ => serve count (s.tryMove (.take .zero))
    | _, _ => s

/-- Lets the worker obey all queued commands and go to sleep. Each command
takes two turns. -/
def rest (s : Session) : Session :=
  serve (2 * s.queue.length + 1) s

/-- The events that were not read yet. -/
def unread (s : Session) : List Playback.Event :=
  s.sent.toList.drop s.seen

/-- The session after so many more events were read. -/
def read (s : Session) (count : Nat) : Session :=
  { s with seen := s.seen + count }

/-- The events up to the first wanted one, if there is one. -/
def upTo (wanted : Playback.Event → Bool) :
    List Playback.Event → Option (List Playback.Event)
  | [] => none
  | event :: later =>
    if wanted event then some [event] else (upTo wanted later).map (event :: ·)

/-- Reads events until a wanted one. Whenever there is nothing to read, the
timer fires as soon as it is due; it does so at most `count` times. The events
come in groups, each after the time that went by before it. -/
def await (wanted : Playback.Event → Bool) :
    Nat → Span → Session → List (Span × List Playback.Event) × Session
  | count, before, s =>
    let s := s.rest
    match upTo wanted s.unread with
    | some events => ([(before, events)], s.read events.length)
    | none =>
      let events := s.unread
      let s := s.read events.length
      match count, s.playback.timeUntilNext with
      | count + 1, some due =>
        let (later, s) := await wanted count due (s.tryMove (.timer due))
        ((before, events) :: later, s)
      | _, _ => ([(before, events)], s)

/-- Reads events until a wanted one. A playback that nobody touches comes to
rest after its remaining records, its end and the end of the celebration. -/
def awaitEvent (wanted : Playback.Event → Bool) (s : Session) :
    List (Span × List Playback.Event) × Session :=
  await wanted (s.rest.playback.remaining + 2) .zero s

/-- What wakes a sleeping worker that is being cancelled. -/
inductive Waking where
  /-- The timer, if there is one. -/
  | timer (elapsed : Span)
  /-- The next command. -/
  | command (elapsed : Span)

/-- Cancels a session and waits for the worker, who looks at the flag at once
or after one more waking. -/
def close (s : Session) (waking : Waking) : Session :=
  let s := s.send .cancel
  let s :=
    match s.stage, waking with
    | .waiting, .timer elapsed =>
      (s.move (.timer elapsed)).getD (s.tryMove (.take elapsed))
    | .waiting, .command elapsed => s.tryMove (.take elapsed)
    | _, _ => s
  s.tryMove .check

end Session

end MazeRobot
