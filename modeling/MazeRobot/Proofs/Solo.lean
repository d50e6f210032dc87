import MazeRobot.Program.Watching
import MazeRobot.Proofs.Deeds
import MazeRobot.Proofs.Performance

/-!
# Workers left to themselves

A worker that nobody sends anything to plays its report: each timer is good for
one more round, and the steps of a round are few, so the steps until all of the
story is sent are numbered, and until then some step is possible. When the flag
goes up after that, the worker has nothing left to tell. Neither the time that
goes by nor a cancel does anything to its playback, no timer wakes it, and it
leaves after few steps.
-/

namespace MazeRobot.Session

open Playback (HandedIn Tells story)

/-- How many steps are left at most until a worker needs its timer or has left,
the sending of events left out. -/
def Point.cost : Point → Nat
  | woken _ _ => 5
  | doing _ => 4
  | sending _ _ => 3
  | checking => 2
  | waiting => 1
  | stopped => 0

namespace Worker

/-- What was sent is told, and so is what is kept for later. -/
theorem sent_isPrefix_told (w : Worker) : w.sent.toList <+: w.told.2 := by
  rw [told, Playback.Change.andThen_eq, List.append_assoc]
  exact List.prefix_append _ _

/-- All events so far are told. -/
theorem shown_isPrefix_told (w : Worker) : w.shown.2 <+: w.told.2 :=
  List.prefix_append _ _

theorem sent_isPrefix_shown (w : Worker) : w.sent.toList <+: w.shown.2 :=
  List.prefix_append _ _

section Begin

variable {w : Worker} {stage : Stage} {point : Point}

/-- What a worker begins that has nothing more to do in its round is all that is
new when the round is done. -/
theorem told_begin (hrest : w.point = stage.point) (hpoint : point.unsent = [])
    (queue : List Command) :
    { w with queue := queue, point := point }.told =
      w.told.andThen (Playback.performAll point.pending) := by
  have hnone : stage.point.pending = [] ∧ stage.point.unsent = [] := by
    cases stage <;> exact ⟨rfl, rfl⟩
  simp only [told, hrest, hnone, hpoint, Playback.performAll, Playback.Change.andThen_eq,
    List.append_nil]

theorem shown_begin (hrest : w.point = stage.point) (hpoint : point.unsent = [])
    (queue : List Command) : { w with queue := queue, point := point }.shown = w.shown := by
  have hnone : stage.point.unsent = [] := by cases stage <;> rfl
  rw [shown, shown, hrest, hnone, hpoint]

theorem Tidy.begin (h : w.Tidy) (hrest : w.point = stage.point) (queue : List Command) :
    Tidy { w with queue := queue, point := point } :=
  fun _ => h.kept_of_rest stage hrest

end Begin

/-- Nothing that was sent is taken back. -/
theorem Stepped.sent_isPrefix {w w' : Worker} {one : Step} (h : Stepped w one w') :
    w.sent.toList <+: w'.sent.toList := by
  cases h with
  | send sending =>
    rw [Array.toList_push]
    exact List.prefix_append _ _
  | _ => exact List.prefix_rfl

/-- A step of the worker keeps the books on what was handed in. -/
theorem Stepped.handedIn {report : Report} {w w' : Worker} {one : Step} (h : Stepped w one w')
    (hw : HandedIn report w.shown.2 w.shown.1) : HandedIn report w'.shown.2 w'.shown.1 := by
  rw [h.shown_eq]
  exact Playback.performAll_keep Playback.Shift.handedIn _ hw _

/-- A worker that plays a report while nobody sends it anything. -/
structure Performing (report : Report) (w : Worker) : Prop where
  /-- When its round is done, the playback has told its story so far. -/
  tells : Tells report w.told.2 w.told.1
  /-- The result is handed in with it. -/
  handed : HandedIn report w.shown.2 w.shown.1
  /-- Events are kept only in the middle of a round. -/
  tidy : w.Tidy
  /-- The flag is down. -/
  down : w.cancelled = false
  /-- Its clients are there. -/
  company : w.released = false
  /-- There is nothing to take. -/
  queue : w.queue = []
  /-- It is not about to leave. -/
  stays : w.point.stage ≠ .stopped

/-- No more steps than these does a worker make that nobody sends anything: each
timer is good for one more round. -/
def effort (report : Report) (w : Worker) : Nat :=
  (story report).length - w.sent.size + 5 * w.told.1.timers + w.point.cost

section Performing

variable {report : Report} {w w' : Worker}

/-- A worker that was just given a fresh playback. -/
theorem performing_spawn (report : Report) (config : PlaybackConfig) :
    Performing report (spawn (.ofReport report config true)) where
  tells := by
    have hplay := (Playback.tells_play report config).1
    rw [← List.append_nil (Playback.perform _ _).2] at hplay
    exact hplay
  handed := Playback.handedIn_ofReport report config
  tidy := tidy_spawn _
  down := rfl
  company := rfl
  queue := rfl
  stays := Stage.noConfusion

/-- What was sent is a beginning of the story. -/
theorem Performing.sent_isPrefix (h : Performing report w) : w.sent.toList <+: story report :=
  w.sent_isPrefix_told.trans h.tells.isPrefix

/-- Such a worker looks at the flag and goes to sleep. -/
theorem Performing.sleep (h : Performing report w) (checking : w.point = .checking) :
    Performing report { w with point := .waiting } ∧
      { w with point := .waiting }.effort report < w.effort report := by
  have hrest : w.point = Stage.checking.point := checking
  have htold : { w with point := .waiting }.told = w.told :=
    (told_begin hrest rfl w.queue).trans (congrArg (_, ·) (List.append_nil _))
  have hshown : { w with point := .waiting }.shown = w.shown := shown_begin hrest rfl w.queue
  refine ⟨⟨?_, ?_, h.tidy.begin hrest w.queue, h.down, h.company, h.queue, Stage.noConfusion⟩, ?_⟩
  · rw [htold]
    exact h.tells
  · rw [hshown]
    exact h.handed
  · rw [effort, effort, htold, checking]
    exact Nat.lt_succ_self _

/-- Its timer wakes it, for a round that goes on with the story. -/
theorem Performing.wake (h : Performing report w) (waiting : w.point = .waiting)
    {wait elapsed : Span} (hwait : w.observed.playback.timeUntilNext = some wait)
    (due : wait.nanos ≤ elapsed.nanos) :
    Performing report { w with point := .woken elapsed .idle } ∧
      { w with point := .woken elapsed .idle }.effort report < w.effort report := by
  have hrest : w.point = Stage.waiting.point := waiting
  have hplayback : w.told.1 = w.observed.playback :=
    congrArg Prod.fst (h.tidy.told_of_rest .waiting waiting)
  rw [← hplayback] at hwait
  have htold : { w with point := .woken elapsed .idle }.told =
      w.told.andThen (Playback.performAll [.advance elapsed]) := told_begin hrest rfl w.queue
  have hadvance : Playback.performAll [.advance elapsed] w.told.1 = w.told.1.advance elapsed :=
    congrArg (_, ·) (List.append_nil _)
  rw [Playback.Change.andThen_eq, hadvance] at htold
  have hshown : { w with point := .woken elapsed .idle }.shown = w.shown :=
    shown_begin hrest rfl w.queue
  refine ⟨⟨?_, ?_, h.tidy.begin hrest w.queue, h.down, h.company, h.queue, Stage.noConfusion⟩, ?_⟩
  · rw [htold]
    exact h.tells.advance elapsed
  · rw [hshown]
    exact h.handed
  · have hless := Playback.timers_advance_lt h.tells hwait due
    rw [effort, effort, htold, waiting]
    simp only [Point.cost]
    omega

/-- It goes on with its round. -/
theorem Performing.proceed (h : Performing report w) (hw : w.proceed = some w') :
    Performing report w' ∧ w'.effort report < w.effort report := by
  have htold := told_proceed hw
  obtain ⟨hstage, hqueue, hcancelled, hreleased⟩ := proceed_frame hw
  have hstepped : Stepped w .proceed w' := stepped_of_step hw
  have hnext : Performing report w' := by
    refine ⟨?_, hstepped.handedIn h.handed, h.tidy.proceed hw, hcancelled.trans h.down,
      hreleased.trans h.company, hqueue.trans h.queue, by rw [hstage]; exact h.stays⟩
    rw [htold]
    exact h.tells
  have hlength := hnext.sent_isPrefix.length_le
  refine ⟨hnext, ?_⟩
  rw [effort, effort, htold]
  obtain ⟨elapsed, task, hpoint, rfl⟩ | ⟨task, hpoint, rfl⟩ | ⟨event, later, last, hpoint, rfl⟩ |
    ⟨last, hpoint, rfl⟩ := proceed_cases hw
  · rw [hpoint]
    exact Nat.lt_succ_self _
  · rw [hpoint]
    exact Nat.lt_succ_self _
  · rw [hpoint]
    simp only [Array.toList_push, List.length_append, List.length_singleton, Array.length_toList,
      Array.size_push, Point.cost] at hlength ⊢
    omega
  · have hcost : (if last then Point.stopped else .checking).cost <
        (Point.sending [] last).cost := by cases last <;> decide
    rw [hpoint]
    exact Nat.add_lt_add_left hcost _

/-- Whatever step it makes of its own, it plays on, and such steps are
numbered. -/
theorem Performing.step (h : Performing report w) {one : Step} (own : one.isOwn = true)
    (due : Program.Watching.isDue w one = true) (hw : w.step one = some w') :
    Performing report w' ∧ w'.effort report < w.effort report := by
  cases one with
  | proceed => exact h.proceed hw
  | move m =>
    rw [Worker.step] at hw
    cases m with
    | raise | enqueue | release => cases own
    | check =>
      rw [Worker.move] at hw
      split at hw
      · next checking =>
        rw [if_neg (ne_true_of_eq_false h.down)] at hw
        obtain rfl := Option.some.inj hw
        exact h.sleep checking
      · cases hw
    | timer elapsed =>
      obtain ⟨wait, hwait, hle⟩ := (Option.any_eq_true _ _).mp due
      rw [Worker.move] at hw
      split at hw
      · next asleep =>
        obtain rfl := Option.some.inj hw
        exact h.wake asleep.1 hwait (of_decide_eq_true hle)
      · cases hw
    | take elapsed =>
      rw [Worker.move, h.queue] at hw
      split at hw
      · next hempty => cases hempty
      · cases hw
    | hangUp elapsed =>
      rw [Worker.move, h.company] at hw
      simp at hw

/-- It can make a step until all of its story is sent. -/
theorem Performing.exists_step (h : Performing report w) (hmore : w.sent.toList ≠ story report) :
    ∃ one, one.isOwn = true ∧ Program.Watching.isDue w one = true ∧ (w.step one).isSome = true := by
  by_cases waiting : w.point = .waiting
  · have hrest : w.told = (w.observed.playback, w.sent.toList) :=
      h.tidy.told_of_rest .waiting waiting
    have htells := h.tells
    rw [hrest] at htells
    cases hwait : w.observed.playback.timeUntilNext with
    | none => exact absurd (htells.eq_story hwait).1 hmore
    | some wait =>
      refine ⟨.move (.timer wait), rfl, ?_, ?_⟩
      · rw [Program.Watching.isDue, hwait]
        exact decide_eq_true (Nat.le_refl _)
      · rw [Worker.step, Worker.move, if_pos ⟨waiting, by rw [hwait]; rfl⟩]
        rfl
  · have here : w.point ≠ .stopped := fun gone => h.stays (by rw [gone]; rfl)
    obtain ⟨one, own, hone⟩ := Worker.exists_step here fun hw => absurd hw waiting
    refine ⟨one, own, ?_, hone⟩
    cases one with
    | proceed => rfl
    | move m =>
      cases m with
      | timer elapsed =>
        rw [Worker.step, Worker.move, if_neg fun hwake => waiting hwake.1] at hone
        cases hone
      | _ => rfl

/-- When all of its story is sent, nothing more is to come. -/
theorem Performing.told_eq (h : Performing report w) (hall : w.sent.toList = story report) :
    w.told.2 = story report ∧ w.told.1.state = .finished ∧ w.told.1.celebrationLeft = none := by
  have htold : w.told.2 = story report :=
    h.tells.isPrefix.eq_of_length_le (by rw [← hall]; exact w.sent_isPrefix_told.length_le)
  refine ⟨htold, ?_⟩
  cases hwait : w.told.1.timeUntilNext with
  | none => exact (h.tells.eq_story hwait).2
  | some wait =>
    have hlength := h.tells.length_lt hwait
    rw [htold] at hlength
    exact absurd hlength (Nat.lt_irrefl _)

end Performing

/-- A worker whose flag is up when all of its story is sent. -/
structure Dismissed (report : Report) (w : Worker) : Prop where
  /-- The story is told, also when the round is done. -/
  told : w.told.2 = story report
  /-- All of it is sent. -/
  sent : w.sent.toList = story report
  /-- The playback is at its natural end, also when the round is done. -/
  finished : w.told.1.state = .finished
  /-- Nothing is celebrated. -/
  off : w.told.1.celebrationLeft = none
  /-- The result was handed in. -/
  handed : HandedIn report w.shown.2 w.shown.1
  /-- Events are kept only in the middle of a round. -/
  tidy : w.Tidy
  /-- The flag is up. -/
  up : w.cancelled = true
  /-- Its clients are there. -/
  company : w.released = false
  /-- There is nothing but cancels to take. -/
  queue : ∀ command ∈ w.queue, command = .cancel

section Dismissed

variable {report : Report} {w w' : Worker}

/-- When the flag goes up, the worker is dismissed. -/
theorem Performing.dismiss (h : Performing report w) (hall : w.sent.toList = story report) :
    Dismissed report { w with cancelled := true } := by
  obtain ⟨htold, hfinished, hoff⟩ := h.told_eq hall
  exact ⟨htold, hall, hfinished, hoff, h.handed, h.tidy, rfl, h.company, by simp [h.queue]⟩

/-- All events are sent and told, so the steps to come are few. -/
theorem Dismissed.toGo_le (h : Dismissed report w) :
    w.toGo ≤ 2 * (report.trace.length + 4) + 8 := by
  have hlength : w.observed.playback.length = report.trace.length :=
    congrArg (·.trace.length) h.handed.faithful.shown
  have hsaid : w.unsaid = 0 := by
    have htold := congrArg List.length h.told
    rw [← h.sent, Worker.told, Playback.Change.andThen_eq] at htold
    simp only [List.length_append] at htold
    rw [unsaid]
    omega
  have hslack : w.point.slack (2 * (report.trace.length + 4)) ≤
      2 * (report.trace.length + 4) + 8 := by
    cases w.point with
    | sending events last =>
      rw [Point.slack]
      split <;> omega
    | woken elapsed task => exact Nat.le_trans (Point.slack_woken_le _ _ _) (by omega)
    | doing task =>
      have hdoing := Point.slack_doing (2 * (report.trace.length + 4)) .zero task
      have hwoken := Point.slack_woken_le (2 * (report.trace.length + 4)) .zero task
      omega
    | _ => simp only [Point.slack]; omega
  rw [toGo, hsaid, hlength, Nat.zero_add]
  exact hslack

theorem Dismissed.sink_eq (h : Dismissed report w) :
    w.observed.playback.sink = some [report.result] := by
  have hshown : w.shown.2 = story report := by
    have hprefix := w.shown_isPrefix_told
    rw [h.told] at hprefix
    exact hprefix.eq_of_length_le (by rw [← h.sent]; exact w.sent_isPrefix_shown.length_le)
  have hsink := h.handed.sink
  rwa [hshown, Playback.any_isFinish_story, if_pos rfl] at hsink

/-- Whatever such a worker begins, it stays at the end of the story. -/
theorem Dismissed.begin (h : Dismissed report w) {stage : Stage} (hrest : w.point = stage.point)
    {point : Point} (hpoint : point.unsent = [])
    (hpending : ∀ op ∈ point.pending, op = .cancel ∨ ∃ elapsed, op = .advance elapsed)
    {queue : List Command} (hqueue : ∀ command ∈ queue, command = .cancel) :
    Dismissed report { w with queue := queue, point := point } := by
  have htold : { w with queue := queue, point := point }.told = w.told := by
    rw [told_begin hrest hpoint, Playback.Change.andThen_eq,
      Playback.performAll_of_atEnd h.finished h.off hpending, List.append_nil]
  have hshown := shown_begin hrest hpoint queue
  refine ⟨?_, h.sent, ?_, ?_, ?_, h.tidy.begin hrest queue, h.up, h.company, hqueue⟩
  · rw [htold]
    exact h.told
  · rw [htold]
    exact h.finished
  · rw [htold]
    exact h.off
  · rw [hshown]
    exact h.handed

/-- It goes on with its round, and nothing is left to send. -/
theorem Dismissed.proceed (h : Dismissed report w) (hw : w.proceed = some w') :
    Dismissed report w' := by
  have htold := told_proceed hw
  have hstepped : Stepped w .proceed w' := stepped_of_step hw
  obtain ⟨-, hqueue, hcancelled, hreleased⟩ := proceed_frame hw
  have hsent : w'.sent.toList = story report := by
    have hprefix := w'.sent_isPrefix_told
    rw [htold, h.told] at hprefix
    exact hprefix.eq_of_length_le (by rw [← h.sent]; exact hstepped.sent_isPrefix.length_le)
  refine ⟨?_, hsent, ?_, ?_, hstepped.handedIn h.handed, h.tidy.proceed hw,
    hcancelled.trans h.up, hreleased.trans h.company, by rw [hqueue]; exact h.queue⟩
  · rw [htold]
    exact h.told
  · rw [htold]
    exact h.finished
  · rw [htold]
    exact h.off

/-- No timer wakes it any more. -/
theorem Dismissed.timeUntilNext_eq_none (h : Dismissed report w) (waiting : w.point = .waiting) :
    w.observed.playback.timeUntilNext = none := by
  have hrest : w.told.1 = w.observed.playback :=
    congrArg Prod.fst (h.tidy.told_of_rest .waiting waiting)
  have hfinished := h.finished
  have hoff := h.off
  rw [hrest] at hfinished hoff
  rw [Playback.timeUntilNext, hfinished]
  exact hoff

/-- A cancel is queued for it or comes too late, and does no harm either way. A
worker that sleeps finds it. -/
theorem Dismissed.call (h : Dismissed report w) {called : Worker}
    (hcalled : (w.move (.enqueue .cancel)).getD w = called) :
    Dismissed report called ∧ called.toGo = w.toGo ∧
      (called.point = .waiting → .cancel ∈ called.queue) := by
  subst hcalled
  rw [Worker.move]
  split
  · next gone =>
    exact ⟨h, rfl, fun waiting => Point.noConfusion (gone.symm.trans waiting)⟩
  · have hqueue : ∀ command ∈ w.queue ++ [.cancel], command = .cancel := by
      intro command hcommand
      exact (List.mem_append.mp hcommand).elim (h.queue command) List.mem_singleton.mp
    exact ⟨⟨h.told, h.sent, h.finished, h.off, h.handed, h.tidy, h.up, h.company, hqueue⟩, rfl,
      fun _ => List.mem_append_right _ (List.mem_singleton_self _)⟩

theorem Dismissed.move_timer (h : Dismissed report w) (elapsed : Span) :
    w.move (.timer elapsed) = none := by
  rw [Worker.move, if_neg]
  rintro ⟨waiting, hwait⟩
  rw [h.timeUntilNext_eq_none waiting] at hwait
  cases hwait

/-- None of its steps waits for a time. -/
theorem Dismissed.isDue (h : Dismissed report w) {one : Step}
    (hone : (w.step one).isSome = true) : Program.Watching.isDue w one = true := by
  cases one with
  | proceed => rfl
  | move m =>
    cases m with
    | timer elapsed =>
      rw [Worker.step, h.move_timer] at hone
      cases hone
    | _ => rfl

/-- Whatever step it makes of its own, it stays at the end of the story, and it
comes nearer to its own. -/
theorem Dismissed.step (h : Dismissed report w) {one : Step} (own : one.isOwn = true)
    (hw : w.step one = some w') : Dismissed report w' ∧ w'.toGo < w.toGo := by
  refine ⟨?_, ?_⟩
  · cases one with
    | proceed => exact h.proceed hw
    | move m =>
      rw [Worker.step] at hw
      cases m with
      | raise | enqueue | release => cases own
      | check =>
        rw [Worker.move] at hw
        split at hw
        · next checking =>
          rw [if_pos h.up] at hw
          obtain rfl := Option.some.inj hw
          have hrest : w.point = Stage.checking.point := checking
          exact h.begin hrest rfl (by simp [Point.pending, Task.operations]) h.queue
        · cases hw
      | timer elapsed =>
        rw [h.move_timer] at hw
        cases hw
      | take elapsed =>
        rw [Worker.move] at hw
        split at hw
        · next command rest waiting hwaits =>
          obtain rfl := Option.some.inj hw
          have hqueue := h.queue
          rw [hwaits] at hqueue
          obtain ⟨rfl, hlater⟩ := List.forall_mem_cons.mp hqueue
          have hrest : w.point = Stage.waiting.point := waiting
          exact h.begin hrest rfl (by simp [Point.pending, Task.operations, Command.operation])
            hlater
        · cases hw
      | hangUp elapsed =>
        rw [Worker.move, h.company] at hw
        simp at hw
  · have hless := (stepped_of_step hw).toGo_le h.up
    rw [own, if_pos rfl] at hless
    exact hless

end Dismissed

end Worker

end MazeRobot.Session
