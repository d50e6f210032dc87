import MazeRobot.Session.Worker

/-!
# A worker among its clients

Any number of clients hold on to one worker. A client that sends a command
takes two steps, between which anything may happen elsewhere: if the command is
a cancel, the flag goes up first, and only then is the command queued. With that
the call has returned, and it tells whether the worker was still there to take
the command. A client can be copied, and it can go away; when all are gone, the
worker can notice. A client that calls from several places at once counts as
several.
-/

namespace MazeRobot.Session

/-- What a client is at. -/
inductive Client where
  /-- It does nothing. -/
  | ready
  /-- It sends a command, which is not queued yet. -/
  | sending (command : Command)
  /-- It is gone. -/
  | gone
  deriving DecidableEq, Repr

/-- A call that has returned. -/
structure Answer where
  /-- The command that was sent. -/
  command : Command
  /-- Whether the worker was still there to take it. -/
  queued : Bool
  deriving DecidableEq, Repr

/-- A step of somebody. -/
inductive Act where
  /-- A client is copied. -/
  | copy (client : Nat)
  /-- A client begins to send a command. A cancel raises the flag. -/
  | call (client : Nat) (command : Command)
  /-- A client queues the command that it sends, and its call returns. -/
  | settle (client : Nat)
  /-- A client goes away. -/
  | leave (client : Nat)
  /-- The worker makes a step of its own. -/
  | work (one : Step)
  deriving DecidableEq, Repr

/-- A worker and its clients. -/
structure Gathering where
  /-- The worker. -/
  worker : Worker
  /-- All clients that there ever were. -/
  clients : List Client
  /-- The calls that have returned, in this order. -/
  answers : List Answer
  deriving DecidableEq, Repr

namespace Gathering

/-- A worker that was just given a playback, and its first client. -/
def spawn (o : Playback.Observed) : Gathering where
  worker := { Worker.spawn o.playback with observed := o }
  clients := [.ready]
  answers := []

/-- A client as it is, if there is one with the number. -/
def client? (g : Gathering) (number : Nat) : Option Client :=
  g.clients[number]?

/-- The gathering with a client that is at something else. -/
def withClient (g : Gathering) (number : Nat) (c : Client) : Gathering :=
  { g with clients := g.clients.set number c }

/-- The gathering with a worker that is somewhere else. -/
def withWorker (g : Gathering) (w : Worker) : Gathering :=
  { g with worker := w }

/-- Whether all clients are gone. -/
def isAlone (g : Gathering) : Bool :=
  g.clients.all (· = .gone)

/-- The gathering when a client has begun to send a command. -/
def sent (g : Gathering) (number : Nat) (command : Command) : Option Gathering :=
  let g := g.withClient number (.sending command)
  if command = .cancel then (g.worker.move .raise).map g.withWorker else some g

/-- The gathering when the call of a client has returned. -/
def returned (g : Gathering) (number : Nat) (command : Command) : Gathering :=
  let g := g.withClient number .ready
  match g.worker.move (.enqueue command) with
  | some w => { g.withWorker w with answers := g.answers ++ [⟨command, true⟩] }
  | none => { g with answers := g.answers ++ [⟨command, false⟩] }

/-- The gathering when a client has gone. -/
def left (g : Gathering) (number : Nat) : Option Gathering :=
  let g := g.withClient number .gone
  if g.isAlone then (g.worker.move .release).map g.withWorker else some g

/-- The gathering after a step, if the step is possible. -/
def act (g : Gathering) : Act → Option Gathering
  | .copy number =>
    match g.client? number with
    | some .ready | some (.sending _) => some { g with clients := g.clients ++ [.ready] }
    | some .gone | none => none
  | .call number command => if g.client? number = some .ready then g.sent number command else none
  | .settle number =>
    match g.client? number with
    | some (.sending command) => some (g.returned number command)
    | some .ready | some .gone | none => none
  | .leave number => if g.client? number = some .ready then g.left number else none
  | .work one => if one.isOwn then (g.worker.step one).map g.withWorker else none

/-- The gathering after steps, if all of them are possible. -/
def actAll : List Act → Gathering → Option Gathering
  | [], g => some g
  | a :: rest, g => (g.act a).bind (actAll rest)

end Gathering

end MazeRobot.Session
