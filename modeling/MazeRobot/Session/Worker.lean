import MazeRobot.Playback.Observed
import MazeRobot.Session

/-!
# Workers in small steps

A session takes a whole round of its worker for one move. Here the worker goes
through its round step by step: it lets the time go by, does what it was woken
for, takes the events from the playback and sends them one after the other.
Clients may raise the flag, queue commands and go away between any two of
these steps, also while the worker is already leaving.
-/

namespace MazeRobot.Session

/-- What a worker is about to do with its playback. -/
inductive Task where
  /-- It obeys a command. -/
  | obey (command : Command)
  /-- Nothing. -/
  | idle
  /-- It stops the playback and leaves. -/
  | leave
  deriving DecidableEq, Repr

/-- What a task does to the playback. -/
def Task.operations : Task → List Playback.Operation
  | obey command => [command.operation]
  | idle => []
  | leave => [.cancel]

/-- Whether the worker leaves after a task. -/
def Task.isLast : Task → Bool
  | leave => true
  | obey _ | idle => false

/-- Where a worker is. -/
inductive Point where
  /-- It is about to look at the flag. -/
  | checking
  /-- It sleeps until something wakes it. -/
  | waiting
  /-- It was woken for a task and is about to let the time go by. -/
  | woken (elapsed : Span) (task : Task)
  /-- It is about to do a task and then to take the events. -/
  | doing (task : Task)
  /-- It sends the events that it took, and perhaps leaves then. -/
  | sending (events : List Playback.Event) (last : Bool)
  /-- It has left. -/
  | stopped
  deriving DecidableEq, Repr

/-- A worker, and what it shares with its clients. -/
structure Worker where
  /-- The playback with the events that were not taken yet. -/
  observed : Playback.Observed
  /-- Commands that the worker did not take yet, oldest first. -/
  queue : List Command
  /-- Whether the flag was raised. -/
  cancelled : Bool
  /-- Whether all clients are gone. -/
  released : Bool
  /-- Where the worker is. -/
  point : Point
  /-- All events that were sent so far. -/
  sent : Array Playback.Event
  deriving DecidableEq, Repr

/-- A step of a worker or of a client. -/
inductive Step where
  /-- A move of a client, or one that the worker cannot make by itself alone. -/
  | move (m : Move)
  /-- The worker goes on with its round. -/
  | proceed
  deriving DecidableEq, Repr

/-- The move that a step makes, if it makes one. -/
def Step.move? : Step → Option Move
  | move m => some m
  | proceed => none

/-- Whether a step is the worker's own. -/
def Step.isOwn : Step → Bool
  | .proceed | .move .check | .move (.timer _) | .move (.take _) | .move (.hangUp _) => true
  | .move .raise | .move (.enqueue _) | .move .release => false

namespace Worker

/-- A worker that was just given a playback, which it begins to play. -/
def spawn (p : Playback) : Worker where
  observed := ⟨p, []⟩
  queue := []
  cancelled := false
  released := false
  point := .doing (.obey .play)
  sent := #[]

/-- The worker after a move, if the move is possible. Commands can be queued as
long as the worker has not left. -/
def move (w : Worker) : Move → Option Worker
  | .raise => some { w with cancelled := true }
  | .enqueue command =>
    if w.point = .stopped then none else some { w with queue := w.queue ++ [command] }
  | .release => some { w with released := true }
  | .check =>
    if w.point = .checking then
      some { w with point := if w.cancelled then .doing .leave else .waiting }
    else none
  | .timer elapsed =>
    if w.point = .waiting ∧ w.observed.playback.timeUntilNext.isSome then
      some { w with point := .woken elapsed .idle }
    else none
  | .take elapsed =>
    match w.point, w.queue with
    | .waiting, command :: rest =>
      some { w with queue := rest, point := .woken elapsed (.obey command) }
    | _, _ => none
  | .hangUp elapsed =>
    if w.point = .waiting ∧ w.queue = [] ∧ w.released then
      some { w with point := .woken elapsed .leave }
    else none

/-- What a worker does with its playback for a task. -/
def uses (task : Task) : List Playback.Use :=
  task.operations.map .perform ++ [.drain]

/-- The worker one step further in its round, unless it waits or has left. -/
def proceed (w : Worker) : Option Worker :=
  match w.point with
  | .checking | .waiting | .stopped => none
  | .woken elapsed task =>
    some { w with
      observed := (w.observed.use (.perform (.advance elapsed))).1
      point := .doing task }
  | .doing task =>
    match w.observed.useAll (uses task) with
    | (observed, events) =>
      some { w with observed := observed, point := .sending events task.isLast }
  | .sending (event :: later) last =>
    some { w with sent := w.sent.push event, point := .sending later last }
  | .sending [] last => some { w with point := if last then .stopped else .checking }

/-- The worker after a step, if the step is possible. -/
def step (w : Worker) : Step → Option Worker
  | .move m => w.move m
  | .proceed => w.proceed

/-- The worker after steps, if all of them are possible. -/
def stepAll : List Step → Worker → Option Worker
  | [], w => some w
  | one :: rest, w => (w.step one).bind (stepAll rest)

end Worker

end MazeRobot.Session
