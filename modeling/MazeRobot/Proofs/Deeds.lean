import MazeRobot.Proofs.Worker

/-!
# What a worker does to its playback

Of all steps that a worker and its clients make, only two kinds touch the
playback: the worker lets time go by, and it does the task that it was woken
for. These are its deeds. The playback of a worker and the events that it has
sent, taken or kept are those of its deeds. Once the flag is up, the deeds that
are still to come are few and known in advance: the worker finishes the round
that it is in, or makes one more if it sleeps, and then it stops the playback.
So are its steps: every one of them brings it nearer to its end.
-/

namespace MazeRobot.Playback

section Chatter

variable (p : Playback)

/-- The report is never changed. -/
theorem Shift.report_eq {op : Operation} {p : Playback} {c : Change} (h : Shift op p c) :
    c.1.report = p.report := by
  cases h with
  | finish playing all =>
    obtain ⟨left, view, hc⟩ := celebrate_eq p.ended
    rw [hc, ended_eq]
  | rewind held off => rw [moveTo_eq]; rfl
  | _ => rfl

/-- No operation changes how many records there are. -/
theorem length_perform (op : Operation) : (p.perform op).1.length = p.length := by
  have hreport : (p.perform op).1.report = p.report :=
    perform_keep (P := fun _ q => q.report = p.report) (fun hc hq => hc.report_eq.trans hq) [] rfl op
  rw [length, hreport, length]

theorem length_moveTo_le (after : State) : (p.moveTo after).2.length ≤ 1 := by
  unfold moveTo
  split <;> simp

theorem length_applyNext_le : p.applyNext.2.length ≤ 1 := by
  unfold applyNext
  split <;> simp

theorem length_endCelebration_le : p.endCelebration.2.length ≤ 1 := by
  unfold endCelebration
  split <;> simp

theorem length_finish_le : p.finish.2.length ≤ 3 := by
  have hmove := length_moveTo_le { p with waited := .zero } .finished
  have hcelebrate (q : Playback) : q.celebrate.2.length ≤ 1 := by
    unfold celebrate
    split <;> simp
  have hlast := hcelebrate ({ p with waited := .zero }.moveTo .finished).1.submit
  simp only [finish, Change.andThen_eq, List.length_append, List.length_cons, List.length_nil]
  omega

/-- A playback tells of each record that is left, and of its end. -/
theorem length_elapseAll_le (count : Nat) (p : Playback) :
    (elapseAll count p).2.length ≤ p.remaining + 3 := by
  induction count generalizing p with
  | zero => simp [elapseAll]
  | succ count ih =>
    by_cases due : p.state = .playing ∧ p.delay.nanos ≤ p.waited.nanos
    · by_cases hlt : p.cursor < p.length
      · have hfirst := p.length_applyNext_le
        have hlater := ih (p.applyNext.1.waiting (p.waited.sub p.delay))
        have hremaining := remaining_applyNext hlt
        rw [elapseAll_of_next due.1 due.2 hlt, Change.andThen_eq, List.length_append]
        rw [remaining_waiting] at hlater
        omega
      · have hfinish := p.length_finish_le
        rw [elapseAll_of_end due.1 due.2 (Nat.le_of_not_lt hlt)]
        omega
    · rw [elapseAll, if_neg due]
      simp

theorem length_advance_le (elapsed : Span) : (p.advance elapsed).2.length ≤ p.remaining + 4 := by
  obtain ⟨left, view, hc⟩ := p.advanceCelebration_eq elapsed
  have hcelebration : (p.advanceCelebration elapsed).2.length ≤ 1 := by
    unfold advanceCelebration
    split
    · simp
    · split
      · exact p.length_endCelebration_le
      · simp
  have hremaining : (p.advanceCelebration elapsed).1.remaining = p.remaining := by
    rw [hc]
    rfl
  rw [advance, Change.andThen_eq, List.length_append]
  split
  · have hlater := length_elapseAll_le ((p.advanceCelebration elapsed).1.remaining + 1)
      ((p.advanceCelebration elapsed).1.waiting
        ((p.advanceCelebration elapsed).1.waited.add elapsed))
    rw [remaining_waiting, hremaining] at hlater
    rw [hremaining]
    simp only [waiting] at hlater
    omega
  · simp only [List.length_nil]
    omega

/-- A cancel has at most one event. -/
theorem length_cancel_le : p.cancel.2.length ≤ 1 := by
  unfold cancel
  split
  · exact p.length_endCelebration_le
  · exact p.length_endCelebration_le
  · exact p.length_moveTo_le .cancelled

/-- A reset has at most two events, one of its cancel and the end of a
celebration. -/
theorem length_reset_le : p.reset.2.length ≤ 2 := by
  have hcancel := p.length_cancel_le
  have hquiet := p.cancel.1.length_endCelebration_le
  simp only [reset, Change.andThen_eq, List.length_append, List.length_nil]
  omega

/-- An operation that is not refused has a few events besides those of the
records. -/
theorem length_attempt_le {op : Operation} {c : Change} (h : p.attempt op = some c) :
    c.2.length ≤ p.remaining + 4 := by
  have hstate (before after : State)
      (h : (if p.state = before then some (p.moveTo after) else none) = some c) :
      c.2.length ≤ p.remaining + 4 := by
    have hmove := p.length_moveTo_le after
    split at h
    · obtain rfl := Option.some.inj h
      omega
    · cases h
  cases op with
  | play =>
    rw [attempt, play] at h
    split at h
    · obtain rfl := Option.some.inj h
      have hmove := p.length_moveTo_le .playing
      have happly := length_applyNext_le ((p.moveTo .playing).1.waiting .zero)
      rw [Change.andThen_eq, List.length_append]
      simp only [waiting] at happly
      omega
    · cases h
  | pause => exact hstate .playing .paused h
  | resume => exact hstate .paused .playing h
  | toggle =>
    rw [attempt, toggle] at h
    split at h
    · exact hstate .playing .paused h
    · exact hstate .paused .playing h
    · cases h
  | step =>
    rw [attempt, step] at h
    split at h
    · have hc : some ({ p.applyNext.1 with waited := .zero }, p.applyNext.2) = some c := h
      have happly := p.length_applyNext_le
      rw [← Option.some.inj hc]
      exact Nat.le_trans happly (by omega)
    · cases h
  | setDelay wanted =>
    obtain rfl := Option.some.inj h
    simp [setDelay]
  | advance elapsed =>
    obtain rfl := Option.some.inj h
    exact p.length_advance_le elapsed
  | cancel =>
    obtain rfl := Option.some.inj h
    have hcancel := p.length_cancel_le
    omega
  | reset =>
    obtain rfl := Option.some.inj h
    have hreset := p.length_reset_le
    omega
  | rewind =>
    rw [attempt, rewind] at h
    split at h
    · cases h
    · obtain rfl := Option.some.inj h
      have hquiet := p.length_endCelebration_le
      have hmove := length_moveTo_le p.endCelebration.1.toStart .idle
      simp only [Change.andThen_eq, List.length_append, List.length_cons, List.length_nil]
      omega

/-- No operation has more events than there are records, and four. -/
theorem length_perform_le (op : Operation) : (p.perform op).2.length ≤ p.length + 4 := by
  have hremaining : p.remaining ≤ p.length := Nat.sub_le _ _
  unfold perform
  cases h : p.attempt op with
  | none => simp
  | some c =>
    have hattempt := p.length_attempt_le h
    rw [Option.getD_some]
    omega

theorem length_performAll (ops : List Operation) (p : Playback) :
    (performAll ops p).1.length = p.length := by
  induction ops generalizing p with
  | nil => rfl
  | cons op rest ih => exact (ih (p.perform op).1).trans (length_perform p op)

/-- Nor do several operations have more for each of them. -/
theorem length_performAll_le (ops : List Operation) (p : Playback) :
    (performAll ops p).2.length ≤ ops.length * (p.length + 4) := by
  induction ops generalizing p with
  | nil => simp [performAll]
  | cons op rest ih =>
    have hfirst := p.length_perform_le op
    have hlater := ih (p.perform op).1
    rw [length_perform] at hlater
    rw [performAll, Change.andThen_eq, List.length_append, List.length_cons, Nat.succ_mul]
    omega

end Chatter

end MazeRobot.Playback

namespace MazeRobot.Session

/-- How many steps of a worker that finds the flag up are left at most, the
sending of events left out. A worker that is asleep may be woken for a round
with some more events. -/
def Point.slack (round : Nat) : Point → Nat
  | stopped => 0
  | sending _ last => if last then 1 else 5
  | doing task => if task.isLast then 2 else 6
  | woken _ task => if task.isLast then 3 else 7
  | waiting => round + 8
  | checking => 4

theorem Point.slack_woken_le (round : Nat) (elapsed : Span) (task : Task) :
    (woken elapsed task).slack round ≤ 7 := by
  rw [slack]
  split <;> omega

theorem Point.slack_doing (round : Nat) (elapsed : Span) (task : Task) :
    (doing task).slack round + 1 = (woken elapsed task).slack round := by
  rw [slack, slack]
  split <;> rfl

theorem Point.slack_sending (round : Nat) (events : List Playback.Event) (task : Task) :
    (sending events task.isLast).slack round + 1 = (doing task).slack round := by
  rw [slack, slack]
  split <;> rfl

/-- After the last event a worker is about to look at the flag or has left. -/
theorem Point.slack_sending_nil (round : Nat) (last : Bool) :
    (if last then stopped else checking).slack round + 1 = (sending [] last).slack round := by
  cases last <;> rfl

/-- What a worker that finds the flag up at the end of its round will have done
when it leaves. -/
def Point.rest (point : Point) : List Playback.Operation :=
  point.pending ++ if point.stage = .stopped then [] else [.cancel]

/-- A worker that is not asleep does little more: it lets time go by and obeys
one command at most, and then it stops the playback. -/
theorem Point.rest_sublist {point : Point} (awake : point ≠ .waiting) :
    ∃ (elapsed : Span) (command : Command),
      point.rest.Sublist [.advance elapsed, command.operation, .cancel] := by
  cases point with
  | waiting => exact absurd rfl awake
  | checking => exact ⟨.zero, .play, by decide⟩
  | sending events last =>
    refine ⟨.zero, .play, ?_⟩
    cases last
    · exact (List.Sublist.refl [_]).cons _ |>.cons _
    · exact List.nil_sublist _
  | stopped => exact ⟨.zero, .play, List.nil_sublist _⟩
  | woken elapsed task =>
    cases task with
    | obey command => exact ⟨elapsed, command, .refl _⟩
    | idle => exact ⟨elapsed, .play, ((List.Sublist.refl [_]).cons _).cons_cons _⟩
    | leave => exact ⟨elapsed, .play, ((List.Sublist.refl [_]).cons _).cons_cons _⟩
  | doing task =>
    cases task with
    | obey command => exact ⟨.zero, command, (List.Sublist.refl [_, _]).cons _⟩
    | idle => exact ⟨.zero, .play, ((List.Sublist.refl [_]).cons _).cons _⟩
    | leave => exact ⟨.zero, .play, ((List.Sublist.refl [_]).cons _).cons _⟩

namespace Worker

/-- Everything that can happen to a worker in one step. -/
inductive Stepped (w : Worker) : Step → Worker → Prop where
  /-- A client raises the flag. -/
  | raise : Stepped w (.move .raise) { w with cancelled := true }
  /-- A client queues a command for a worker that has not left. -/
  | enqueue (command : Command) (here : w.point ≠ .stopped) :
      Stepped w (.move (.enqueue command)) { w with queue := w.queue ++ [command] }
  /-- The last client goes away. -/
  | release : Stepped w (.move .release) { w with released := true }
  /-- The worker finds the flag down and goes to sleep. -/
  | sleep (checking : w.point = .checking) (down : w.cancelled = false) :
      Stepped w (.move .check) { w with point := .waiting }
  /-- The worker finds the flag up and is about to leave. -/
  | quit (checking : w.point = .checking) (up : w.cancelled = true) :
      Stepped w (.move .check) { w with point := .doing .leave }
  /-- Something wakes the worker, for leaving only if it is alone. -/
  | wake {m : Move} (own : (Step.move m).isOwn = true) (asleep : w.point = .waiting)
      (elapsed : Span) (task : Task) (alone : task.isLast = true → w.released = true) :
      Stepped w (.move m)
        { w with queue := m.queueAfter w.queue, point := .woken elapsed task }
  /-- The time since the latest round goes by. -/
  | advance {elapsed : Span} {task : Task} (woken : w.point = .woken elapsed task) :
      Stepped w .proceed
        { w with
          observed := (w.observed.use (.perform (.advance elapsed))).1
          point := .doing task }
  /-- The worker does what it was woken for, and takes the events. -/
  | perform {task : Task} (doing : w.point = .doing task) :
      Stepped w .proceed
        { w with
          observed := (w.observed.useAll (uses task)).1
          point := .sending (w.observed.useAll (uses task)).2 task.isLast }
  /-- The worker sends an event. -/
  | send {event : Playback.Event} {later : List Playback.Event} {last : Bool}
      (sending : w.point = .sending (event :: later) last) :
      Stepped w .proceed { w with sent := w.sent.push event, point := .sending later last }
  /-- All events are sent. -/
  | finish {last : Bool} (sending : w.point = .sending [] last) :
      Stepped w .proceed { w with point := if last then .stopped else .checking }

theorem stepped_of_move {w w' : Worker} {m : Move} (h : w.move m = some w') :
    Stepped w (.move m) w' := by
  cases m with
  | raise =>
    obtain rfl := Option.some.inj h
    exact .raise
  | release =>
    obtain rfl := Option.some.inj h
    exact .release
  | enqueue command =>
    rw [Worker.move] at h
    split at h
    · cases h
    · next here =>
      obtain rfl := Option.some.inj h
      exact .enqueue command here
  | check =>
    rw [Worker.move] at h
    split at h
    · next checking =>
      obtain rfl := Option.some.inj h
      by_cases up : w.cancelled = true
      · rw [if_pos up]
        exact .quit checking up
      · rw [if_neg up]
        exact .sleep checking (Bool.eq_false_iff.mpr up)
    · cases h
  | timer elapsed =>
    rw [Worker.move] at h
    split at h
    · next due =>
      obtain rfl := Option.some.inj h
      exact .wake rfl due.1 elapsed .idle Bool.noConfusion
    · cases h
  | take elapsed =>
    rw [Worker.move] at h
    split at h
    · next command rest asleep waits =>
      have hrest : rest = (Move.take elapsed).queueAfter w.queue :=
        (congrArg List.tail waits).symm
      obtain rfl := Option.some.inj h
      rw [hrest]
      exact .wake rfl asleep elapsed (.obey command) Bool.noConfusion
    · cases h
  | hangUp elapsed =>
    rw [Worker.move] at h
    split at h
    · next alone =>
      obtain rfl := Option.some.inj h
      exact .wake rfl alone.1 elapsed .leave fun _ => alone.2.2
    · cases h

theorem stepped_of_step {w w' : Worker} {one : Step} (h : w.step one = some w') :
    Stepped w one w' := by
  cases one with
  | move m => exact stepped_of_move h
  | proceed =>
    obtain ⟨elapsed, task, hpoint, rfl⟩ | ⟨task, hpoint, rfl⟩ | ⟨event, later, last, hpoint, rfl⟩ |
      ⟨last, hpoint, rfl⟩ := proceed_cases h
    · exact .advance hpoint
    · exact .perform hpoint
    · exact .send hpoint
    · exact .finish hpoint

/-- What a worker does to its playback by a step. -/
def deeds (w : Worker) : Step → List Playback.Operation
  | .move _ => []
  | .proceed =>
    match w.point with
    | .woken elapsed _ => [.advance elapsed]
    | .doing task => task.operations
    | .checking | .waiting | .sending _ _ | .stopped => []

/-- The playback of a worker as it is, and all events of it. -/
def shown (w : Worker) : Playback.Change :=
  (w.observed.playback, w.sent.toList ++ (w.point.unsent ++ w.observed.kept))

section Stepped

variable {w w' : Worker} {one : Step}

/-- What is shown follows the deeds. -/
theorem Stepped.shown_eq (h : Stepped w one w') :
    w'.shown = w.shown.andThen (Playback.performAll (w.deeds one)) := by
  rw [Playback.Change.andThen_eq]
  cases h with
  | raise | enqueue | release => exact congrArg (_, ·) (List.append_nil _).symm
  | sleep checking | quit checking =>
    rw [Worker.shown, Worker.shown, checking]
    exact congrArg (_, ·) (List.append_nil _).symm
  | wake own asleep =>
    rw [Worker.shown, Worker.shown, asleep]
    exact congrArg (_, ·) (List.append_nil _).symm
  | advance woken =>
    simp only [Worker.shown, deeds, woken, Point.unsent, Playback.Observed.use,
      Playback.performAll, Playback.Change.andThen_eq, List.append_assoc, List.append_nil]
  | perform doing =>
    simp only [Worker.shown, deeds, doing, Point.unsent, playback_useAll_uses,
      events_useAll_uses, kept_useAll_uses, List.nil_append, List.append_nil, List.append_assoc]
  | send sending =>
    simp only [Worker.shown, deeds, sending, Point.unsent, Playback.performAll,
      Array.toList_push, List.append_assoc, List.cons_append, List.nil_append, List.append_nil]
  | @finish last sending =>
    simp only [Worker.shown, deeds, sending, Point.unsent, Playback.performAll, List.append_nil]
    cases last <;> rfl

/-- A flag that is up stays up. -/
theorem Stepped.cancelled (h : Stepped w one w') (up : w.cancelled = true) :
    w'.cancelled = true := by
  cases h with
  | raise => rfl
  | _ => exact up

/-- Only the last client that goes away tells the worker that it is alone. -/
theorem Stepped.released_eq (h : Stepped w one w') (hone : one ≠ .move .release) :
    w'.released = w.released := by
  cases h with
  | release => exact absurd rfl hone
  | _ => rfl

/-- A worker that was told to be alone stays so. -/
theorem Stepped.released (h : Stepped w one w') (alone : w.released = true) :
    w'.released = true := by
  cases h with
  | release => rfl
  | _ => exact alone

/-- No command gets lost while the worker sleeps, and with the flag up it does not
fall asleep. -/
theorem Stepped.called (h : Stepped w one w') (up : w.cancelled = true) {command : Command}
    (hcalled : w.point = .waiting → command ∈ w.queue) (asleep : w'.point = .waiting) :
    command ∈ w'.queue := by
  cases h with
  | raise | release => exact hcalled asleep
  | enqueue => exact List.mem_append_left _ (hcalled asleep)
  | sleep checking down => exact absurd up (by rw [down]; decide)
  | @finish last =>
    cases last
    · cases asleep
    · cases asleep
  | quit | wake | advance | perform | send => cases asleep

/-- What a step does is taken from what the worker will do before it leaves, if
the flag is up and the worker is not asleep, and it does not go to sleep any
more. -/
theorem Stepped.rest_eq (h : Stepped w one w') (up : w.cancelled = true)
    (awake : w.point ≠ .waiting) :
    w.deeds one ++ w'.point.rest = w.point.rest ∧ w'.point ≠ .waiting := by
  cases h with
  | raise | enqueue | release => exact ⟨rfl, awake⟩
  | sleep checking down => exact absurd up (by rw [down]; decide)
  | quit checking =>
    rw [checking]
    exact ⟨rfl, Point.noConfusion⟩
  | wake own asleep => exact absurd asleep awake
  | advance woken =>
    refine ⟨?_, Point.noConfusion⟩
    rw [deeds, woken]
    rfl
  | @perform task doing =>
    refine ⟨?_, Point.noConfusion⟩
    rw [deeds, doing]
    cases task <;> rfl
  | send sending =>
    refine ⟨?_, Point.noConfusion⟩
    rw [deeds, sending]
    rfl
  | @finish last sending =>
    rw [deeds, sending]
    cases last
    · exact ⟨rfl, Point.noConfusion⟩
    · exact ⟨rfl, Point.noConfusion⟩

/-- A worker that sleeps does nothing but wake. -/
theorem Stepped.of_asleep (h : Stepped w one w') (asleep : w.point = .waiting) :
    w.deeds one = [] ∧
      (w'.point = .waiting ∨ ∃ elapsed task, w'.point = .woken elapsed task) := by
  have hdeeds : w.deeds one = [] := by
    cases one with
    | move m => rfl
    | proceed => rw [deeds, asleep]
  refine ⟨hdeeds, ?_⟩
  cases h with
  | raise | enqueue | release => exact .inl asleep
  | sleep => exact .inl rfl
  | quit checking => cases asleep.symm.trans checking
  | wake own _ elapsed task => exact .inr ⟨elapsed, task, rfl⟩
  | advance woken => cases asleep.symm.trans woken
  | perform doing => cases asleep.symm.trans doing
  | send sending => cases asleep.symm.trans sending
  | finish sending => cases asleep.symm.trans sending

/-- A worker leaves only if the flag was up or all clients are gone, and then
the last thing that it does is to stop the playback. -/
theorem Stepped.leaving (h : Stepped w one w') (leaving : w'.point.stage = .stopped) :
    (w.point.stage = .stopped ∧ w.deeds one ++ w'.point.pending = w.point.pending) ∨
      ((w.cancelled = true ∨ w.released = true) ∧
        ∃ before, w.deeds one ++ w'.point.pending = before ++ [.cancel]) := by
  cases h with
  | raise | enqueue | release => exact .inl ⟨leaving, rfl⟩
  | sleep => cases leaving
  | quit checking up => exact .inr ⟨.inl up, [], rfl⟩
  | wake own asleep elapsed task alone =>
    cases task with
    | obey | idle => cases leaving
    | leave => exact .inr ⟨.inr (alone rfl), [.advance elapsed], rfl⟩
  | advance woken =>
    refine .inl ⟨?_, ?_⟩
    · rw [woken]
      exact leaving
    · rw [deeds, woken]
      rfl
  | @perform task doing =>
    refine .inl ⟨?_, ?_⟩
    · rw [doing]
      exact leaving
    · rw [deeds, doing]
      exact List.append_nil _
  | send sending =>
    refine .inl ⟨?_, ?_⟩
    · rw [sending]
      exact leaving
    · rw [deeds, sending]
      rfl
  | @finish last sending =>
    rw [deeds, sending]
    cases last
    · cases leaving
    · exact .inl ⟨rfl, rfl⟩

/-- A worker that has left stays away, and neither its playback nor what was
sent changes. -/
theorem Stepped.of_stopped (h : Stepped w one w') (gone : w.point = .stopped) :
    w'.point = .stopped ∧ w'.observed = w.observed ∧ w'.sent = w.sent := by
  cases h with
  | raise | release => exact ⟨gone, rfl, rfl⟩
  | enqueue command here => exact absurd gone here
  | sleep checking | quit checking => cases gone.symm.trans checking
  | wake own asleep => cases gone.symm.trans asleep
  | advance woken => cases gone.symm.trans woken
  | perform doing => cases gone.symm.trans doing
  | send sending | finish sending => cases gone.symm.trans sending

end Stepped

/-- A worker that is neither asleep with nothing to take nor away can make a
step of its own. -/
theorem exists_step {w : Worker} (here : w.point ≠ .stopped)
    (called : w.point = .waiting → w.queue ≠ []) :
    ∃ one, one.isOwn = true ∧ (w.step one).isSome = true := by
  cases hpoint : w.point with
  | checking => exact ⟨.move .check, rfl, by rw [step, move, if_pos hpoint]; rfl⟩
  | waiting =>
    obtain ⟨command, rest, hqueue⟩ := List.exists_cons_of_ne_nil (called hpoint)
    exact ⟨.move (.take .zero), rfl, by simp only [step, move, hpoint, hqueue, Option.isSome_some]⟩
  | woken elapsed task => exact ⟨.proceed, rfl, by rw [step, proceed, hpoint]; rfl⟩
  | doing task => exact ⟨.proceed, rfl, by rw [step, proceed, hpoint]; rfl⟩
  | sending events last =>
    refine ⟨.proceed, rfl, ?_⟩
    cases events <;> rw [step, proceed, hpoint] <;> rfl
  | stopped => exact absurd hpoint here

/-- How many events of the round are still to be sent. -/
def unsaid (w : Worker) : Nat :=
  w.point.unsent.length + w.observed.kept.length +
    (Playback.performAll w.point.pending w.observed.playback).2.length

/-- No more steps than these does a worker make before it leaves, once the flag
is up. No operation of a round has more events than the records and four. -/
def toGo (w : Worker) : Nat :=
  w.unsaid + w.point.slack (2 * (w.observed.playback.length + 4))

/-- A round has no more events than two operations can have. -/
theorem length_round_le (p : Playback) (elapsed : Span) (task : Task) :
    (Playback.performAll (.advance elapsed :: task.operations) p).2.length ≤
      2 * (p.length + 4) := by
  have hround := Playback.length_performAll_le (.advance elapsed :: task.operations) p
  have htask : task.operations.length ≤ 1 := by cases task <;> simp [Task.operations]
  rw [List.length_cons] at hround
  exact Nat.le_trans hround (Nat.mul_le_mul_right _ (by omega))

/-- While the flag is up, every step of a worker brings it nearer to its end, and
no step of a client keeps it from there. -/
theorem Stepped.toGo_le {w w' : Worker} {one : Step} (h : Stepped w one w')
    (up : w.cancelled = true) : w'.toGo + (if one.isOwn then 1 else 0) ≤ w.toGo := by
  cases h with
  | raise | enqueue | release => exact Nat.le_refl _
  | sleep checking down => exact absurd up (by rw [down]; decide)
  | quit checking =>
    have hcancel : (Playback.performAll [.cancel] w.observed.playback).2.length ≤ 1 := by
      rw [Playback.performAll, Playback.Change.andThen_eq, Playback.performAll, List.append_nil]
      exact w.observed.playback.length_cancel_le
    simp only [toGo, unsaid, checking, Point.unsent, Point.pending, Point.slack, Task.operations,
      Task.isLast, Step.isOwn, if_true]
    omega
  | @wake m own asleep elapsed task alone =>
    have hround := length_round_le w.observed.playback elapsed task
    have hslack := Point.slack_woken_le (2 * (w.observed.playback.length + 4)) elapsed task
    have hasleep : (Point.waiting).slack (2 * (w.observed.playback.length + 4)) =
        2 * (w.observed.playback.length + 4) + 8 := rfl
    simp only [toGo, unsaid, asleep, Point.unsent, Point.pending, own, if_true]
    omega
  | @advance elapsed task woken =>
    have hlength := Playback.length_perform w.observed.playback (.advance elapsed)
    have hslack := Point.slack_doing (2 * (w.observed.playback.length + 4)) elapsed task
    simp only [toGo, unsaid, woken, Point.unsent, Point.pending, Playback.Observed.use,
      Playback.performAll, Playback.Change.andThen_eq, List.length_append, Step.isOwn, if_true,
      hlength]
    omega
  | @perform task doing =>
    have hlength := Playback.length_performAll task.operations w.observed.playback
    have hslack := Point.slack_sending (2 * (w.observed.playback.length + 4))
      (w.observed.useAll (uses task)).2 task
    rw [events_useAll_uses] at hslack
    simp only [toGo, unsaid, doing, Point.unsent, Point.pending, events_useAll_uses,
      kept_useAll_uses, playback_useAll_uses, Playback.performAll, List.length_append,
      List.length_nil, Step.isOwn, if_true, hlength]
    omega
  | send sending =>
    simp only [toGo, unsaid, sending, Point.unsent, Point.pending, Point.slack,
      Playback.performAll, List.length_cons, Step.isOwn, if_true]
    omega
  | @finish last sending =>
    have hslack := Point.slack_sending_nil (2 * (w.observed.playback.length + 4)) last
    have hunsent : (if last then Point.stopped else .checking).unsent = [] := by
      cases last <;> rfl
    have hpending : (if last then Point.stopped else .checking).pending = [] := by
      cases last <;> rfl
    have hnothing : (Point.sending [] last).unsent = [] := rfl
    have hdone : (Point.sending [] last).pending = [] := rfl
    simp only [toGo, unsaid, sending, hunsent, hpending, hnothing, hdone, Step.isOwn, if_true]
    omega

end Worker

end MazeRobot.Session
