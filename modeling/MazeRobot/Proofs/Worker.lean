import MazeRobot.Proofs.Pace
import MazeRobot.Proofs.Rounds
import MazeRobot.Session.Worker

/-!
# Small steps and whole rounds

A worker that goes through its rounds in small steps, with its clients stepping
in anywhere, comes to nothing that a session does not come to by its moves: the
moves of the worker are those of the session, and the steps in between finish
what a move of the session has already done. So the events that a worker sends
are those of a plain playback that is played, taken through the rounds and
cancelled, none of them lost or sent twice, and this playback is the one that
the worker hands back.
-/

namespace MazeRobot.Session

/-- What a worker will still do with its playback before it looks at the flag
again or leaves. -/
def Point.pending : Point → List Playback.Operation
  | woken elapsed task => .advance elapsed :: task.operations
  | doing task => task.operations
  | checking | waiting | sending _ _ | stopped => []

/-- The events that a worker took and did not send yet. -/
def Point.unsent : Point → List Playback.Event
  | sending events _ => events
  | checking | waiting | woken _ _ | doing _ | stopped => []

/-- Where a session is that takes the rest of the round for done. -/
def Point.stage : Point → Stage
  | checking => .checking
  | waiting => .waiting
  | woken _ task | doing task => if task.isLast then .stopped else .checking
  | sending _ last => if last then .stopped else .checking
  | stopped => .stopped

/-- Where a worker is that has nothing more to do in its round. -/
def Stage.point : Stage → Point
  | checking => .checking
  | waiting => .waiting
  | stopped => .stopped

namespace Worker

/-- The playback of a worker and all events of it, when the rest of the round
is done. -/
def told (w : Worker) : Playback.Change :=
  Playback.Change.andThen
    (w.observed.playback, w.sent.toList ++ (w.point.unsent ++ w.observed.kept))
    (Playback.performAll w.point.pending)

theorem operations_uses (task : Task) :
    (uses task).filterMap Playback.Use.operation? = task.operations := by
  cases task <;> rfl

/-- The playback when a task is done. -/
theorem playback_useAll_uses (task : Task) (o : Playback.Observed) :
    (o.useAll (uses task)).1.playback = (Playback.performAll task.operations o.playback).1 := by
  rw [Playback.Observed.playback_useAll, operations_uses]

/-- The events that are taken when a task is done: those that were kept and
those of the task. -/
theorem events_useAll_uses (task : Task) (o : Playback.Observed) :
    (o.useAll (uses task)).2 = o.kept ++ (Playback.performAll task.operations o.playback).2 := by
  have h := Playback.Observed.events_useAll (uses task) o
  rwa [operations_uses, uses, Playback.Observed.kept_useAll_drain, List.append_nil] at h

theorem kept_useAll_uses (task : Task) (o : Playback.Observed) :
    (o.useAll (uses task)).1.kept = [] :=
  Playback.Observed.kept_useAll_drain _ o

section Proceed

variable {w w' : Worker}

/-- The four ways in which a worker goes on with its round. -/
theorem proceed_cases (h : w.proceed = some w') :
    (∃ elapsed task, w.point = .woken elapsed task ∧
      w' = { w with
        observed := (w.observed.use (.perform (.advance elapsed))).1
        point := .doing task }) ∨
    (∃ task, w.point = .doing task ∧
      w' = { w with
        observed := (w.observed.useAll (uses task)).1
        point := .sending (w.observed.useAll (uses task)).2 task.isLast }) ∨
    (∃ event later last, w.point = .sending (event :: later) last ∧
      w' = { w with sent := w.sent.push event, point := .sending later last }) ∨
    (∃ last, w.point = .sending [] last ∧
      w' = { w with point := if last then .stopped else .checking }) := by
  rw [Worker.proceed] at h
  split at h
  · cases h
  · cases h
  · cases h
  · next elapsed task hpoint => exact .inl ⟨elapsed, task, hpoint, (Option.some.inj h).symm⟩
  · next task hpoint => exact .inr (.inl ⟨task, hpoint, (Option.some.inj h).symm⟩)
  · next event later last hpoint =>
    exact .inr (.inr (.inl ⟨event, later, last, hpoint, (Option.some.inj h).symm⟩))
  · next last hpoint => exact .inr (.inr (.inr ⟨last, hpoint, (Option.some.inj h).symm⟩))

/-- A worker that goes on with its round does what is already counted. -/
theorem told_proceed (h : w.proceed = some w') : w'.told = w.told := by
  obtain ⟨elapsed, task, hpoint, rfl⟩ | ⟨task, hpoint, rfl⟩ | ⟨event, later, last, hpoint, rfl⟩ |
    ⟨last, hpoint, rfl⟩ := proceed_cases h
  · simp only [told, hpoint, Point.pending, Point.unsent, Playback.performAll,
      Playback.Change.andThen_eq, Playback.Observed.use, List.append_assoc, List.nil_append]
  · simp only [told, hpoint, Point.pending, Point.unsent, Playback.performAll,
      Playback.Change.andThen_eq, playback_useAll_uses, events_useAll_uses, kept_useAll_uses,
      List.append_nil, List.nil_append, List.append_assoc]
  · simp only [told, hpoint, Point.pending, Point.unsent, Array.toList_push, List.append_assoc,
      List.cons_append, List.nil_append]
  · cases last <;> simp only [told, hpoint] <;> rfl

/-- The rest of a round changes nothing but the playback, its events and the
place in the round. -/
theorem proceed_frame (h : w.proceed = some w') :
    w'.point.stage = w.point.stage ∧ w'.queue = w.queue ∧ w'.cancelled = w.cancelled ∧
      w'.released = w.released := by
  obtain ⟨elapsed, task, hpoint, rfl⟩ | ⟨task, hpoint, rfl⟩ | ⟨event, later, last, hpoint, rfl⟩ |
    ⟨last, hpoint, rfl⟩ := proceed_cases h
  · exact ⟨by rw [hpoint]; rfl, rfl, rfl, rfl⟩
  · exact ⟨by rw [hpoint]; rfl, rfl, rfl, rfl⟩
  · exact ⟨by rw [hpoint]; rfl, rfl, rfl, rfl⟩
  · refine ⟨?_, rfl, rfl, rfl⟩
    rw [hpoint]
    cases last <;> rfl

end Proceed

/-- Events are kept only in the middle of a round. -/
def Tidy (w : Worker) : Prop :=
  (∀ task, w.point ≠ .doing task) → w.observed.kept = []

theorem Tidy.proceed {w w' : Worker} (h : w.Tidy) (hw : w.proceed = some w') : w'.Tidy := by
  intro hnone
  obtain ⟨elapsed, task, hpoint, rfl⟩ | ⟨task, hpoint, rfl⟩ | ⟨event, later, last, hpoint, rfl⟩ |
    ⟨last, hpoint, rfl⟩ := proceed_cases hw
  · exact absurd rfl (hnone task)
  · exact kept_useAll_uses task w.observed
  · exact h fun task => hpoint.trans_ne Point.noConfusion
  · exact h fun task => hpoint.trans_ne Point.noConfusion

end Worker

/-- A worker in the middle of a round, and a session that takes the round for
done. Only when the worker is leaving may there be commands for it of which the
session does not know. -/
structure Worker.Follows (w : Worker) (s : Session) : Prop where
  /-- The playback and its events are the same when the round is done. -/
  change : s.change = w.told
  /-- So is what comes next. -/
  stage : s.stage = w.point.stage
  /-- The flag is the same. -/
  cancelled : s.cancelled = w.cancelled
  /-- The clients are the same. -/
  released : s.released = w.released
  /-- The same commands wait for a worker who may still take them. -/
  queue : s.stage ≠ .stopped → s.queue = w.queue

namespace Worker.Follows

variable {w w' : Worker} {s : Session}

/-- A session has nothing to do while its worker goes on with a round. -/
theorem proceed (h : w.Follows s) (hw : w.proceed = some w') : w'.Follows s := by
  obtain ⟨hstage, hqueue, hcancelled, hreleased⟩ := proceed_frame hw
  exact ⟨h.change.trans (told_proceed hw).symm, h.stage.trans hstage.symm,
    h.cancelled.trans hcancelled.symm, h.released.trans hreleased.symm,
    fun going => (h.queue going).trans hqueue.symm⟩

/-- At a point where nothing is left of the round before, the session has the
playback of the worker. -/
theorem playback_eq (h : w.Follows s) (hpending : w.point.pending = []) :
    s.playback = w.observed.playback := by
  have hchange := congrArg Prod.fst h.change
  rwa [told, hpending] at hchange

/-- A session does at once what its worker begins at a point where nothing is
left of the round before. -/
theorem begin (h : w.Follows s) (hpending : w.point.pending = []) (hunsent : w.point.unsent = [])
    {point : Point} (hpoint : point.unsent = []) {queue rest : List Command}
    (hqueue : point.stage ≠ .stopped → queue = rest) :
    Follows { w with queue := rest, point := point }
      { s.forward (Playback.performAll point.pending s.playback) with
        queue := queue
        stage := point.stage } where
  change := by
    have htold : w.told = (w.observed.playback, w.sent.toList ++ w.observed.kept) := by
      rw [told, hpending, hunsent, Playback.Change.andThen_eq]
      exact congrArg (_, ·) (List.append_nil _)
    have hchange := change_forward s point.pending
    rw [h.change, htold] at hchange
    rw [told, hpoint]
    exact hchange
  stage := rfl
  cancelled := h.cancelled
  released := h.released
  queue := hqueue

/-- A worker that looks at the flag. -/
theorem check (h : w.Follows s) (hm : w.move .check = some w') :
    ∃ s', s.move .check = some s' ∧ w'.Follows s' := by
  rw [Worker.move] at hm
  split at hm
  · next checking =>
    obtain rfl := Option.some.inj hm
    have hstage : s.stage = .checking := by rw [h.stage, checking]; rfl
    rw [Session.move, if_pos hstage]
    by_cases flag : s.cancelled
    · rw [if_pos flag, if_pos (h.cancelled.symm.trans flag)]
      exact ⟨_, rfl, h.begin (by rw [checking]; rfl) (by rw [checking]; rfl) rfl (absurd rfl)⟩
    · rw [if_neg flag, if_neg (h.cancelled ▸ flag)]
      -- Going to sleep is no round, so nothing is told by it.
      have htold : { w with point := .waiting }.told = w.told := by
        rw [told, told, checking]
        rfl
      exact ⟨_, rfl, h.change.trans htold.symm, rfl, h.cancelled, h.released,
        fun _ => h.queue (hstage.trans_ne Stage.noConfusion)⟩
  · cases hm

/-- A session sleeps with its worker, and the same commands wait. -/
theorem waiting (h : w.Follows s) (hpoint : w.point = .waiting) :
    s.stage = .waiting ∧ s.queue = w.queue := by
  have hstage : s.stage = .waiting := by rw [h.stage, hpoint]; rfl
  exact ⟨hstage, h.queue (hstage.trans_ne Stage.noConfusion)⟩

/-- A worker that is woken for a task goes where the session is at once. -/
theorem woken (h : w.Follows s) (hpoint : w.point = .waiting) (elapsed : Span) (task : Task)
    {queue rest : List Command}
    (hqueue : (Point.woken elapsed task).stage ≠ .stopped → queue = rest) :
    Follows { w with queue := rest, point := .woken elapsed task }
      { s.forward (Playback.performAll (.advance elapsed :: task.operations) s.playback) with
        queue := queue
        stage := (Point.woken elapsed task).stage } :=
  h.begin (by rw [hpoint]; rfl) (by rw [hpoint]; rfl) rfl hqueue

/-- A worker that the timer wakes. -/
theorem timer {elapsed : Span} (h : w.Follows s) (hm : w.move (.timer elapsed) = some w') :
    ∃ s', s.move (.timer elapsed) = some s' ∧ w'.Follows s' := by
  rw [Worker.move] at hm
  split at hm
  · next due =>
    obtain ⟨hpoint, htimer⟩ := due
    obtain rfl := Option.some.inj hm
    obtain ⟨hstage, hqueue⟩ := h.waiting hpoint
    rw [← h.playback_eq (by rw [hpoint]; rfl)] at htimer
    exact ⟨_, if_pos ⟨hstage, htimer⟩, h.woken hpoint elapsed .idle fun _ => hqueue⟩
  · cases hm

/-- A worker that the next command wakes. -/
theorem take {elapsed : Span} (h : w.Follows s) (hm : w.move (.take elapsed) = some w') :
    ∃ s', s.move (.take elapsed) = some s' ∧ w'.Follows s' := by
  rw [Worker.move] at hm
  split at hm
  · next command rest hpoint hwaits =>
    obtain rfl := Option.some.inj hm
    obtain ⟨hstage, hqueue⟩ := h.waiting hpoint
    rw [Session.move, hstage, hqueue, hwaits]
    exact ⟨_, rfl, h.woken hpoint elapsed (.obey command) fun _ => rfl⟩
  · cases hm

/-- A worker that notices that it is alone. -/
theorem hangUp {elapsed : Span} (h : w.Follows s) (hm : w.move (.hangUp elapsed) = some w') :
    ∃ s', s.move (.hangUp elapsed) = some s' ∧ w'.Follows s' := by
  rw [Worker.move] at hm
  split at hm
  · next alone =>
    obtain ⟨hpoint, hempty, hreleased⟩ := alone
    obtain rfl := Option.some.inj hm
    obtain ⟨hstage, hqueue⟩ := h.waiting hpoint
    exact ⟨_, if_pos ⟨hstage, hqueue.trans hempty, h.released.trans hreleased⟩,
      h.woken hpoint elapsed .leave (absurd rfl)⟩
  · cases hm

/-- A command that is queued for a worker. A session refuses it if the worker
is leaving. -/
theorem enqueue {command : Command} (h : w.Follows s)
    (hm : w.move (.enqueue command) = some w') :
    (∃ s', s.move (.enqueue command) = some s' ∧ w'.Follows s') ∨ w'.Follows s := by
  rw [Worker.move] at hm
  split at hm
  · cases hm
  · obtain rfl := Option.some.inj hm
    by_cases leaving : s.stage = .stopped
    · exact .inr ⟨h.change, h.stage, h.cancelled, h.released, absurd leaving⟩
    · exact .inl ⟨_, if_neg leaving, h.change, h.stage, h.cancelled, h.released,
        fun going => congrArg (· ++ [command]) (h.queue going)⟩

/-- A move of the worker or of its clients is one of the session, unless it
begins no round and the session stays as it is. -/
theorem move {m : Move} (h : w.Follows s) (hm : w.move m = some w') :
    (∃ s', s.move m = some s' ∧ w'.Follows s') ∨ (w'.Follows s ∧ m.round? w.queue = none) := by
  cases m with
  | raise =>
    obtain rfl := Option.some.inj hm
    exact .inl ⟨_, rfl, h.change, h.stage, rfl, h.released, h.queue⟩
  | release =>
    obtain rfl := Option.some.inj hm
    exact .inl ⟨_, rfl, h.change, h.stage, h.cancelled, rfl, h.queue⟩
  | enqueue command => exact (h.enqueue hm).imp_right fun hsame => ⟨hsame, rfl⟩
  | check => exact .inl (h.check hm)
  | timer elapsed => exact .inl (h.timer hm)
  | take elapsed => exact .inl (h.take hm)
  | hangUp elapsed => exact .inl (h.hangUp hm)

/-- A move begins the same round of the session and of the worker. -/
theorem round_eq {m : Move} {s' : Session} (h : w.Follows s) (hm : s.move m = some s') :
    m.round? s.queue = m.round? w.queue := by
  by_cases leaving : s.stage = .stopped
  · cases m with
    | take elapsed =>
      rw [Session.move, leaving] at hm
      cases hm
    | _ => rfl
  · rw [h.queue leaving]

end Worker.Follows

namespace Worker

/-- A move leaves the events that are kept alone, it changes the queue as the
move alone tells, and it does not lead into the middle of a round but from
where nothing is left of the round before. -/
theorem move_frame {w w' : Worker} {m : Move} (hm : w.move m = some w') :
    w'.observed = w.observed ∧ w'.queue = m.queueAfter w.queue ∧
      (w'.point = w.point ∨ ∀ task, w.point ≠ .doing task) := by
  cases m with
  | raise | release =>
    obtain rfl := Option.some.inj hm
    exact ⟨rfl, rfl, .inl rfl⟩
  | enqueue command =>
    rw [Worker.move] at hm
    split at hm
    · cases hm
    · obtain rfl := Option.some.inj hm
      exact ⟨rfl, rfl, .inl rfl⟩
  | check =>
    rw [Worker.move] at hm
    split at hm
    · next checking =>
      obtain rfl := Option.some.inj hm
      exact ⟨rfl, rfl, .inr fun task => checking.trans_ne Point.noConfusion⟩
    · cases hm
  | take elapsed =>
    rw [Worker.move] at hm
    split at hm
    · next waiting hwaits =>
      obtain rfl := Option.some.inj hm
      exact ⟨rfl, (congrArg List.tail hwaits).symm,
        .inr fun task => waiting.trans_ne Point.noConfusion⟩
    · cases hm
  | timer elapsed | hangUp elapsed =>
    rw [Worker.move] at hm
    split at hm
    · next hwake =>
      obtain rfl := Option.some.inj hm
      exact ⟨rfl, rfl, .inr fun task => hwake.1.trans_ne Point.noConfusion⟩
    · cases hm

theorem Tidy.move {w w' : Worker} {m : Move} (h : w.Tidy) (hm : w.move m = some w') :
    w'.Tidy := by
  obtain ⟨hobserved, _, hpoint⟩ := move_frame hm
  intro hnone
  rw [hobserved]
  rcases hpoint with hsame | hrest
  · exact h fun task => hsame ▸ hnone task
  · exact h hrest

theorem Tidy.step {w w' : Worker} {one : Step} (h : w.Tidy) (hw : w.step one = some w') :
    w'.Tidy := by
  cases one with
  | move m => exact h.move hw
  | proceed => exact h.proceed hw

theorem Tidy.stepAll {w w' : Worker} {steps : List Step} (h : w.Tidy)
    (hsteps : stepAll steps w = some w') : w'.Tidy := by
  induction steps generalizing w with
  | nil =>
    obtain rfl := Option.some.inj hsteps
    exact h
  | cons one rest ih =>
    obtain ⟨middle, hone, hrest⟩ := Option.bind_eq_some_iff.mp hsteps
    exact ih (h.step hone) hrest

theorem Tidy.kept_of_rest {w : Worker} (h : w.Tidy) (stage : Stage)
    (hpoint : w.point = stage.point) : w.observed.kept = [] := by
  refine h fun task hdoing => ?_
  rw [hdoing] at hpoint
  cases stage <;> cases hpoint

/-- A worker that has nothing more to do in its round has sent all events. -/
theorem Tidy.told_of_rest {w : Worker} (h : w.Tidy) (stage : Stage)
    (hpoint : w.point = stage.point) : w.told = (w.observed.playback, w.sent.toList) := by
  rw [told, h.kept_of_rest stage hpoint, hpoint, Playback.Change.andThen_eq]
  cases stage <;> exact congrArg (_, ·) ((List.append_nil _).trans (List.append_nil _))

theorem tidy_spawn (p : Playback) : (Worker.spawn p).Tidy :=
  fun _ => rfl

/-- The moves of some steps. -/
def moves (steps : List Step) : List Move :=
  steps.filterMap Step.move?

/-- Steps of a worker and of its clients come to what moves of a session come
to, with the same rounds. The session may refuse some commands that come too
late for the worker. -/
theorem Follows.stepAll {w w' : Worker} {s : Session} {steps : List Step} (h : w.Follows s)
    (hsteps : stepAll steps w = some w') :
    ∃ accepted s', accepted.Sublist (moves steps) ∧ moveAll accepted s = some s' ∧
      w'.Follows s' ∧ rounds s.queue accepted = rounds w.queue (moves steps) := by
  induction steps generalizing w s with
  | nil =>
    obtain rfl := Option.some.inj hsteps
    exact ⟨[], s, .slnil, rfl, h, rfl⟩
  | cons one rest ih =>
    obtain ⟨middle, hone, hrest⟩ := Option.bind_eq_some_iff.mp hsteps
    cases one with
    | proceed =>
      obtain ⟨accepted, s', hsub, hmoves, hfollows, hrounds⟩ := ih (h.proceed hone) hrest
      refine ⟨accepted, s', hsub, hmoves, hfollows, ?_⟩
      rw [hrounds, (proceed_frame hone).2.1]
      rfl
    | move m =>
      -- Either the session makes the move too, or it is a command that comes too late.
      obtain ⟨t, hm, ht⟩ | ⟨hsame, hnone⟩ := h.move hone
      · obtain ⟨accepted, s', hsub, hmoves, hfollows, hrounds⟩ := ih ht hrest
        refine ⟨m :: accepted, s', hsub.cons_cons m, ?_, hfollows, ?_⟩
        · exact Option.bind_eq_some_iff.mpr ⟨t, hm, hmoves⟩
        · rw [queue_move hm, (move_frame hone).2.1] at hrounds
          exact congrArg₂ (·.toList ++ ·) (h.round_eq hm) hrounds
      · obtain ⟨accepted, s', hsub, hmoves, hfollows, hrounds⟩ := ih hsame hrest
        refine ⟨accepted, s', hsub.cons m, hmoves, hfollows, ?_⟩
        rw [hrounds, (move_frame hone).2.1]
        exact (congrArg (·.toList ++ _) hnone).symm

/-- The queue of a worker is what its moves left of it. -/
theorem queue_stepAll {w w' : Worker} {steps : List Step} (hsteps : stepAll steps w = some w') :
    w'.queue = (moves steps).foldl Move.queueAfter w.queue := by
  induction steps generalizing w with
  | nil =>
    obtain rfl := Option.some.inj hsteps
    rfl
  | cons one rest ih =>
    obtain ⟨middle, hone, hrest⟩ := Option.bind_eq_some_iff.mp hsteps
    rw [ih hrest]
    cases one with
    | move m =>
      rw [(move_frame hone).2.1]
      rfl
    | proceed =>
      rw [(proceed_frame hone).2.1]
      rfl

/-- A worker that was just given a playback, and the session that has begun. -/
theorem follows_spawn (p : Playback) : (Worker.spawn p).Follows (Session.spawn p) where
  change := by
    rw [shows_spawn p]
    rfl
  stage := rfl
  cancelled := rfl
  released := rfl
  queue := fun _ => rfl

/-- A worker that has left, whatever it and its clients did, sent the events of
a playback that is played at once, taken through the rounds and then cancelled,
in order, none of them lost or told twice, and hands this playback back. The
rounds obey commands in the order in which they were queued, each at most once.
A session comes to the same by the same moves, but that it may refuse commands
that were queued while the worker was leaving. -/
theorem stepAll_refines (report : Report) (config : PlaybackConfig) (taken : Bool)
    {steps : List Step} {w : Worker}
    (hsteps : stepAll steps (Worker.spawn (.ofReport report config taken)) = some w)
    (hpoint : w.point = .stopped) :
    let start := Playback.ofReport report config taken
    let obeyed := rounds [] (moves steps)
    Playback.performAll (.play :: roundOperations obeyed ++ [.cancel]) start =
        (w.observed.playback, w.sent.toList) ∧
      obeyed.filterMap Round.command ++ w.queue = (moves steps).filterMap Move.command? ∧
      ∃ accepted s, accepted.Sublist (moves steps) ∧
        moveAll accepted (Session.spawn start) = some s ∧ s.stage = .stopped ∧
        s.playback = w.observed.playback ∧ s.sent = w.sent := by
  intro start obeyed
  have htold := ((tidy_spawn start).stepAll hsteps).told_of_rest .stopped hpoint
  obtain ⟨accepted, s, hsub, hmoves, hfollows, hrounds⟩ := (follows_spawn start).stepAll hsteps
  have hstage : s.stage = .stopped := by rw [hfollows.stage, hpoint]; rfl
  have hchange : s.change = (w.observed.playback, w.sent.toList) := hfollows.change.trans htold
  have hshows := moveAll_shows start hmoves
  have hobeyed : rounds [] accepted = obeyed := hrounds
  rw [Shows, hstage, hchange, hobeyed] at hshows
  refine ⟨hshows.symm, ?_, accepted, s, hsub, hmoves, hstage, congrArg Prod.fst hchange,
    Array.ext' (congrArg Prod.snd hchange)⟩
  rw [queue_stepAll hsteps]
  exact commands_rounds [] (moves steps)

/-- A stroll that is held, shown on by hand and stopped by the flag while a
cancel waits. The last command is queued when the worker is leaving. -/
def outing : List Step :=
  List.replicate 4 Step.proceed ++
    [.move .check, .move (.enqueue .pause), .move (.timer (.ofMillis 300)), .proceed,
      .move (.enqueue .step)] ++
    List.replicate 3 Step.proceed ++
    [.move .check, .move (.take (.ofMillis 100))] ++
    List.replicate 4 Step.proceed ++
    [.move .check, .move .raise, .move (.take (.ofMillis 5)), .move (.enqueue .cancel)] ++
    List.replicate 4 Step.proceed ++
    [.move .check, .proceed, .move (.enqueue .play), .proceed, .proceed]

/-- An outing goes through three rounds and leaves two commands over. -/
theorem stepAll_refines_outing :
    ∃ w, stepAll outing (Worker.spawn (.ofReport Playback.stroll {} true)) = some w ∧
      w.point = .stopped ∧ w.queue = [.cancel, .play] ∧
      let start := Playback.ofReport Playback.stroll {} true
      let obeyed : List Round :=
        [⟨.ofMillis 300, none⟩, ⟨.ofMillis 100, some .pause⟩, ⟨.ofMillis 5, some .step⟩]
      Playback.performAll (.play :: roundOperations obeyed ++ [.cancel]) start =
          (w.observed.playback, w.sent.toList) ∧
        obeyed.filterMap Round.command ++ w.queue = [.pause, .step, .cancel, .play] ∧
        ∃ accepted s, accepted.Sublist (moves outing) ∧
          moveAll accepted (Session.spawn start) = some s ∧ s.stage = .stopped ∧
          s.playback = w.observed.playback ∧ s.sent = w.sent := by
  have hrun : (stepAll outing (Worker.spawn (.ofReport Playback.stroll {} true))).any
      (fun w => w.point = .stopped ∧ w.queue = [.cancel, .play]) := by decide +kernel
  obtain ⟨w, hsteps, hw⟩ := (Option.any_eq_true _ _).mp hrun
  obtain ⟨hpoint, hqueue⟩ := of_decide_eq_true hw
  have hrounds : rounds [] (moves outing) =
      [⟨.ofMillis 300, none⟩, ⟨.ofMillis 100, some .pause⟩, ⟨.ofMillis 5, some .step⟩] := by decide
  have hsent : (moves outing).filterMap Move.command? = [.pause, .step, .cancel, .play] := by decide
  obtain ⟨hshown, hcommands, hsession⟩ := stepAll_refines Playback.stroll {} true hsteps hpoint
  rw [hrounds] at hshown hcommands
  rw [hsent] at hcommands
  exact ⟨w, hsteps, hpoint, hqueue, hshown, hcommands, hsession⟩

end Worker

end MazeRobot.Session
