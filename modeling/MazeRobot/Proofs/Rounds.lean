import MazeRobot.Proofs.Shift
import MazeRobot.Session

/-!
# The rounds of a session

A worker goes through rounds: something wakes it, it lets the time since its
latest waking go by, and it obeys a command if a command woke it. The moves of
a session determine the rounds, whatever else happens in between. So the
playback of a session and the events that were sent are those of a playback
that somebody plays at once, takes through all rounds and at last cancels, and
the commands are obeyed in the order in which they were queued.
-/

namespace MazeRobot.Session

/-- A round of a worker: how much time went by, and the command if one woke
it. -/
structure Round where
  /-- The time since the round before. -/
  elapsed : Span
  /-- What the worker obeyed. -/
  command : Option Command
  deriving DecidableEq, Repr

/-- What a round does to the playback. -/
def Round.operations (r : Round) : List Playback.Operation :=
  .advance r.elapsed :: r.command.toList.map Command.operation

/-- The round that a move begins, if it begins one, with the commands that wait
before it. -/
def Move.round? (queue : List Command) : Move → Option Round
  | .timer elapsed | .hangUp elapsed => some ⟨elapsed, none⟩
  | .take elapsed => queue.head?.map fun command => ⟨elapsed, some command⟩
  | .raise | .enqueue _ | .release | .check => none

/-- The commands that wait after a move. -/
def Move.queueAfter (queue : List Command) : Move → List Command
  | .enqueue command => queue ++ [command]
  | .take _ => queue.tail
  | .raise | .release | .check | .timer _ | .hangUp _ => queue

/-- The command that a move queues, if it queues one. -/
def Move.command? : Move → Option Command
  | .enqueue command => some command
  | _ => none

/-- The rounds that moves begin, with the commands that wait before them. -/
def rounds : List Command → List Move → List Round
  | _, [] => []
  | queue, m :: rest => (m.round? queue).toList ++ rounds (m.queueAfter queue) rest

/-- What rounds do to the playback. -/
def roundOperations (rs : List Round) : List Playback.Operation :=
  rs.flatMap Round.operations

theorem roundOperations_append (rs later : List Round) :
    roundOperations (rs ++ later) = roundOperations rs ++ roundOperations later :=
  List.flatMap_append

/-- The command that a move takes from the queue is the first that waits. -/
theorem Move.filterMap_command_round? (queue : List Command) (m : Move) :
    (m.round? queue).toList.filterMap Round.command ++ m.queueAfter queue =
      queue ++ m.command?.toList := by
  cases m with
  | take elapsed =>
    cases queue with
    | nil => rfl
    | cons command rest => exact (List.append_nil (command :: rest)).symm
  | enqueue command => rfl
  | _ => exact (List.append_nil queue).symm

/-- Commands are obeyed in the order in which they were queued, each of them
once, and those that are left over wait in that order. -/
theorem commands_rounds (queue : List Command) (moves : List Move) :
    (rounds queue moves).filterMap Round.command ++ moves.foldl Move.queueAfter queue =
      queue ++ moves.filterMap Move.command? := by
  induction moves generalizing queue with
  | nil => exact (List.append_nil queue).symm
  | cons m rest ih =>
    rw [rounds, List.filterMap_append, List.append_assoc, List.foldl_cons, ih,
      ← List.append_assoc, m.filterMap_command_round?, List.append_assoc]
    cases h : m.command? with
    | none => rw [List.filterMap_cons_none h]; rfl
    | some command => rw [List.filterMap_cons_some h]; rfl

/-- The playback of a session, with all events that were sent. -/
def change (s : Session) : Playback.Change :=
  (s.playback, s.sent.toList)

/-- What a worker that has left did at the very end. -/
def Stage.farewell : Stage → List Playback.Operation
  | .checking | .waiting => []
  | .stopped => [.cancel]

/-- The events of what is done to the playback of a session are sent behind
those that were sent before. -/
theorem change_forward (s : Session) (ops : List Playback.Operation) :
    (s.forward (Playback.performAll ops s.playback)).change =
      s.change.andThen (Playback.performAll ops) :=
  congrArg (_, ·) Array.toList_appendList

/-- A session that stands where operations lead that are done to a playback. -/
def Shows (start : Playback) (ops : List Playback.Operation) (s : Session) : Prop :=
  s.change = Playback.performAll (ops ++ s.stage.farewell) start

section Shows

variable {start : Playback} {ops : List Playback.Operation} {s s' : Session}

/-- Further operations of a worker that is still there. -/
theorem Shows.forward (h : Shows start ops s) (hstage : s.stage.farewell = [])
    (more : List Playback.Operation) :
    (s.forward (Playback.performAll more s.playback)).change =
      Playback.performAll (ops ++ more) start := by
  rw [Shows, hstage, List.append_nil] at h
  rw [change_forward, h, Playback.performAll_append]

/-- A waking lets the time go by and does what the worker was woken for. -/
theorem Shows.wake (h : Shows start ops s) (hstage : s.stage.farewell = []) (elapsed : Span)
    (more : List Playback.Operation) :
    Shows start (ops ++ .advance elapsed :: more) (s.wake elapsed more) := by
  rw [Shows, Session.wake, Stage.farewell, List.append_nil]
  exact h.forward hstage _

/-- A worker that leaves cancels its playback last. -/
theorem Shows.stop (h : Shows start ops s) (hstage : s.stage.farewell = [])
    (more : List Playback.Operation) :
    Shows start (ops ++ more) (s.stop (more ++ [.cancel])) := by
  rw [Shows, Session.stop, Stage.farewell, List.append_assoc]
  exact h.forward hstage _

/-- A move begins a round, or it leaves the playback where it is. -/
theorem Shows.move {m : Move} (h : Shows start ops s) (hm : s.move m = some s') :
    Shows start (ops ++ roundOperations (m.round? s.queue).toList) s' := by
  cases m with
  | raise =>
    obtain rfl := Option.some.inj hm
    exact (List.append_nil ops).symm ▸ h
  | enqueue command =>
    rw [Session.move] at hm
    split at hm
    · cases hm
    · obtain rfl := Option.some.inj hm
      exact (List.append_nil ops).symm ▸ h
  | release =>
    obtain rfl := Option.some.inj hm
    exact (List.append_nil ops).symm ▸ h
  | check =>
    rw [Session.move] at hm
    split at hm
    · next checking =>
      have hstage : s.stage.farewell = [] := by rw [checking]; rfl
      split at hm
      · obtain rfl := Option.some.inj hm
        exact h.stop hstage []
      · obtain rfl := Option.some.inj hm
        rw [Shows, hstage] at h
        exact h.trans (congrArg (Playback.performAll · start) (List.append_nil _).symm)
    · cases hm
  | timer elapsed =>
    rw [Session.move] at hm
    split at hm
    · next due =>
      obtain rfl := Option.some.inj hm
      exact h.wake (by rw [due.1]; rfl) elapsed []
    · cases hm
  | take elapsed =>
    rw [Session.move] at hm
    split at hm
    · next command rest waiting waits =>
      obtain rfl := Option.some.inj hm
      have hwake := Shows.wake (s := { s with queue := rest }) h (by rw [waiting]; rfl) elapsed
        [command.operation]
      rw [waits]
      exact hwake
    · cases hm
  | hangUp elapsed =>
    rw [Session.move] at hm
    split at hm
    · next left =>
      obtain rfl := Option.some.inj hm
      exact h.stop (by rw [left.1]; rfl) [.advance elapsed]
    · cases hm

/-- A move changes the queue as the move alone tells. -/
theorem queue_move {m : Move} (hm : s.move m = some s') : s'.queue = m.queueAfter s.queue := by
  cases m with
  | raise => obtain rfl := Option.some.inj hm; rfl
  | release => obtain rfl := Option.some.inj hm; rfl
  | take elapsed =>
    rw [Session.move] at hm
    split at hm
    · next waits =>
      obtain rfl := Option.some.inj hm
      rw [Move.queueAfter, waits]
      rfl
    · cases hm
  | check =>
    rw [Session.move] at hm
    split at hm
    · split at hm <;> obtain rfl := Option.some.inj hm <;> rfl
    · cases hm
  | enqueue command =>
    rw [Session.move] at hm
    split at hm
    · cases hm
    · obtain rfl := Option.some.inj hm; rfl
  | timer elapsed | hangUp elapsed =>
    rw [Session.move] at hm
    split at hm
    · obtain rfl := Option.some.inj hm; rfl
    · cases hm

/-- Moves take the playback through the rounds that they begin. -/
theorem Shows.moveAll {moves : List Move} (h : Shows start ops s)
    (hmoves : moveAll moves s = some s') :
    Shows start (ops ++ roundOperations (rounds s.queue moves)) s' := by
  induction moves generalizing s ops with
  | nil =>
    obtain rfl := Option.some.inj hmoves
    exact (List.append_nil ops).symm ▸ h
  | cons m rest ih =>
    obtain ⟨middle, hm, hrest⟩ := Option.bind_eq_some_iff.mp hmoves
    have hlater := ih (h.move hm) hrest
    rwa [queue_move hm, List.append_assoc, ← roundOperations_append] at hlater

/-- A session begins with its playback being played. -/
theorem shows_spawn (p : Playback) : Shows p [.play] (spawn p) := by
  rw [Shows, change, spawn, forward, Stage.farewell, List.append_nil, Playback.performAll,
    Playback.Change.andThen_eq, Playback.performAll, List.append_nil]
  exact congrArg (_, ·) (Array.toList_appendList.trans (List.nil_append _))

end Shows

/-- Whatever clients and worker do, the session stands where a playback stands
that is played, taken through the rounds so far and, when the worker has left,
cancelled. -/
theorem moveAll_shows (p : Playback) {moves : List Move} {s : Session}
    (h : moveAll moves (spawn p) = some s) :
    Shows p (.play :: roundOperations (rounds [] moves)) s :=
  (shows_spawn p).moveAll h

end MazeRobot.Session
