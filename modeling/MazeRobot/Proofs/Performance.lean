import MazeRobot.Proofs.Due
import MazeRobot.Proofs.Submission

/-!
# Undisturbed playbacks

A playback that is started and then only given time tells its whole story:
that it plays, each record with its number, that it has finished, the result,
and the celebration if there is one. How the time is cut into pieces plays no
part. What was told so far is a beginning of the story, and the story is told
to its end exactly when nothing happens by itself any more. Whenever time that
is due goes by, the story goes on; so it takes no more timers than there are
records and two.
-/

namespace MazeRobot.Playback

/-- All records of a report, each told with its number. -/
def recital (report : Report) : List Event :=
  report.trace.toList.mapIdx .applied

/-- What is told behind the last record. -/
def finale (report : Report) : List Event :=
  .changed .playing .finished :: .finished report.result ::
    if report.result.completed then [.celebrationStarted, .celebrationEnded] else []

/-- All that an undisturbed playback tells. -/
def story (report : Report) : List Event :=
  .changed .idle .playing :: (recital report ++ finale report)

/-- How often a timer has to fire at most until nothing happens by itself any
more: once for each record, for the end and for the end of a celebration. -/
def timers (p : Playback) : Nat :=
  match p.state with
  | .idle => p.length + 2
  | .playing => p.remaining + 2
  | .finished => if p.isCelebrating then 1 else 0
  | .paused | .cancelled => 0

/-- How far an undisturbed playback is, and what it has told so far. -/
inductive Tells (report : Report) (events : List Event) (p : Playback) : Prop where
  /-- It is at its records. -/
  | playing (shown : p.report = report) (playing : p.state = .playing)
      (off : p.celebrationLeft = none) (within : p.cursor ≤ report.trace.length)
      (heard : events = .changed .idle .playing :: (recital report).take p.cursor)
  /-- It has finished, and perhaps the celebration is still to end. -/
  | finished (shown : p.report = report) (finished : p.state = .finished)
      (all : p.cursor = report.trace.length)
      (heard : events ++ (if p.isCelebrating then [.celebrationEnded] else []) = story report)

section Recital

variable {report : Report}

/-- The story tells of the natural end. -/
theorem any_isFinish_story (report : Report) : (story report).any Event.isFinish = true := by
  simp [story, finale, Event.isFinish]

theorem length_recital (report : Report) : (recital report).length = report.trace.length := by
  rw [recital, List.length_mapIdx]
  rfl

/-- The story is little longer than its records. -/
theorem length_story_le (report : Report) : (story report).length ≤ report.trace.length + 5 := by
  rw [story, finale, List.length_cons, List.length_append, length_recital]
  cases report.result.completed <;> simp

/-- One more record is told with its number. -/
theorem take_recital_succ {count : Nat} {record : Record}
    (next : report.trace.get? count = some record) :
    (recital report).take (count + 1) = (recital report).take count ++ [.applied count record] := by
  have hget : report.trace.toList[count]? = some record := by
    rw [Trace.toList, Array.getElem?_toList]
    exact next
  rw [List.take_add_one, recital, List.getElem?_mapIdx, hget]
  rfl

end Recital

variable {report : Report} {events : List Event} {p : Playback}

namespace Tells

/-- The next record is told behind those before. -/
theorem apply (h : Tells report events p) {record : Record}
    (next : p.report.trace.get? p.cursor = some record) :
    Tells report (events ++ [.applied p.cursor record])
      { p with view := p.view.apply record, cursor := p.cursor + 1 } := by
  cases h with
  | playing shown playing off within heard =>
    rw [shown] at next
    refine .playing shown playing off (Array.getElem?_eq_some_iff.mp next).1 ?_
    rw [heard, take_recital_succ next]
    rfl
  | finished shown _ all =>
    rw [shown, all] at next
    exact absurd (Array.getElem?_eq_some_iff.mp next).1 (Nat.lt_irrefl _)

/-- Behind the last record the end is told, and the result is handed in. -/
theorem finish (h : Tells report events p) (playing : p.state = .playing)
    (all : p.length ≤ p.cursor) :
    Tells report (events ++
      .changed .playing .finished :: .finished p.report.result :: p.ended.celebrate.2)
      p.ended.celebrate.1 := by
  cases h with
  | finished shown finished => cases playing.symm.trans finished
  | playing shown _ off within heard =>
    subst shown
    have hall : p.cursor = p.report.trace.length := Nat.le_antisymm within all
    have hheard : events = .changed .idle .playing :: recital p.report := by
      rw [heard, hall, ← length_recital, List.take_length]
    obtain ⟨sink, hended⟩ : ∃ sink, p.ended = { p with
        waited := .zero, state := .finished, submitted := true, sink := sink } := ⟨_, p.ended_eq⟩
    rw [hended, celebrate, hheard]
    split
    · next completed =>
      have completed : p.report.result.completed = true := completed
      refine .finished rfl rfl hall ?_
      simp [isCelebrating, story, finale, completed]
    · next failed =>
      have failed : ¬p.report.result.completed = true := failed
      refine .finished rfl rfl hall ?_
      simp [isCelebrating, off, story, finale, failed]

/-- Whatever time does to a playback, it tells its story. -/
theorem shift {elapsed : Span} {c : Change} (h : Tells report events p)
    (hc : Shift (.advance elapsed) p c) : Tells report (events ++ c.2) c.1 := by
  cases hc with
  | count =>
    rw [List.append_nil]
    cases h with
    | playing shown playing off within heard =>
      exact .playing shown playing off within heard
    | finished shown finished all heard => exact .finished shown finished all heard
  | shorten on left =>
    rw [List.append_nil]
    cases h with
    | playing shown playing off => rw [off] at on; cases on
    | finished shown finished all heard =>
      rw [isCelebrating, on] at heard
      exact .finished shown finished all heard
  | quiet on =>
    cases h with
    | playing shown playing off => rw [off] at on; cases on
    | finished shown finished all heard =>
      rw [isCelebrating, on] at heard
      exact .finished shown finished all ((List.append_nil _).trans heard)
  | apply next => exact h.apply next
  | lead leads => cases leads
  | finish playing all => exact h.finish playing all

theorem shifts {elapsed : Span} {c : Change} (h : Tells report events p)
    (hc : Shifts (.advance elapsed) p c) : Tells report (events ++ c.2) c.1 :=
  hc.keep (P := Tells report) (fun hc h => h.shift hc) events h

/-- Time that goes by goes on with the story. -/
theorem advance (h : Tells report events p) (elapsed : Span) :
    Tells report (events ++ (p.advance elapsed).2) (p.advance elapsed).1 :=
  h.shifts (shifts_advance elapsed p)

/-- The story is told from its beginning. -/
theorem isPrefix (h : Tells report events p) : events <+: story report := by
  cases h with
  | playing shown playing off within heard =>
    rw [heard, story]
    exact (List.prefix_cons_inj _).mpr ((List.take_prefix _ _).trans (List.prefix_append _ _))
  | finished shown finished all heard => exact ⟨_, heard⟩

/-- Where nothing happens by itself any more, the story is told. -/
theorem eq_story (h : Tells report events p) (hrest : p.timeUntilNext = none) :
    events = story report ∧ p.state = .finished ∧ p.celebrationLeft = none := by
  cases h with
  | playing shown playing => rw [timeUntilNext, playing] at hrest; cases hrest
  | finished shown finished all heard =>
    have off : p.celebrationLeft = none := by
      rw [timeUntilNext, finished] at hrest
      exact hrest
    rw [isCelebrating, off] at heard
    exact ⟨(List.append_nil _).symm.trans heard, finished, off⟩

end Tells

/-- As long as something is to happen, the story is not told to its end. -/
theorem Tells.length_lt (h : Tells report events p) {wait : Span}
    (hwait : p.timeUntilNext = some wait) : events.length < (story report).length := by
  cases h with
  | playing shown playing off within heard =>
    rw [heard, story]
    simp only [List.length_cons, List.length_append, List.length_take, finale]
    omega
  | finished shown finished all heard =>
    have on : p.celebrationLeft = some wait := by
      rw [timeUntilNext, finished] at hwait
      exact hwait
    rw [isCelebrating, on] at heard
    rw [← heard, List.length_append]
    exact Nat.lt_succ_self _

/-! ### Timers -/

/-- A playback that has finished needs one timer at most, to end the
celebration. -/
theorem timers_le_of_finished (finished : p.state = .finished) : p.timers ≤ 1 := by
  rw [timers, finished]
  dsimp only
  split <;> omega

theorem Tells.timers_le (h : Tells report events p) : p.timers ≤ p.remaining + 2 := by
  cases h with
  | playing shown playing => exact Nat.le_of_eq (by rw [timers, playing])
  | finished shown finished =>
    have hone := timers_le_of_finished finished
    omega

/-- A delay that is over brings a playback nearer to its end. -/
theorem timers_elapse_lt (playing : p.state = .playing) : p.elapse.1.timers < p.timers := by
  have hnow : p.timers = p.remaining + 2 := by rw [timers, playing]
  rw [elapse]
  split
  · next hlt =>
    have hless := remaining_applyNext hlt
    have hlater : p.applyNext.1.timers = p.applyNext.1.remaining + 2 := by
      rw [timers, state_applyNext, playing]
    omega
  · obtain ⟨left, view, hfinish⟩ := finish_eq playing
    have hlater := timers_le_of_finished (p := p.finish.1) (by rw [hfinish])
    omega

/-- Whatever time does to a playback, no more timers are needed than before. -/
theorem timers_shift_le {elapsed : Span} {c : Change} (h : Tells report events p)
    (hc : Shift (.advance elapsed) p c) : c.1.timers ≤ p.timers := by
  cases hc with
  | count => exact Nat.le_refl _
  | shorten on left =>
    rw [timers, timers, isCelebrating, isCelebrating, on]
    exact Nat.le_refl _
  | quiet on =>
    cases h with
    | playing shown playing off => rw [off] at on; cases on
    | finished shown finished =>
      rw [timers, finished]
      exact Nat.zero_le _
  | apply next =>
    cases h with
    | playing shown playing =>
      rw [timers, timers, playing]
      simp only [remaining, length]
      omega
    | finished shown _ all =>
      rw [shown, all] at next
      exact absurd (Array.getElem?_eq_some_iff.mp next).1 (Nat.lt_irrefl _)
  | lead leads => cases leads
  | finish playing all =>
    have hlt := timers_elapse_lt playing
    rw [elapse, if_neg (Nat.not_lt.mpr all), finish_of_playing playing] at hlt
    exact Nat.le_of_lt hlt

theorem timers_shifts_le {elapsed : Span} {c : Change} (h : Tells report events p)
    (hc : Shifts (.advance elapsed) p c) : c.1.timers ≤ p.timers :=
  (hc.keep (P := fun events q => Tells report events q ∧ q.timers ≤ p.timers)
    (fun hc hq => ⟨hq.1.shift hc, Nat.le_trans (timers_shift_le hq.1 hc) hq.2⟩)
    events ⟨h, Nat.le_refl _⟩).2

/-- A timer that fires when it is due brings a playback nearer to its end. -/
theorem timers_advance_lt (h : Tells report events p) {wait elapsed : Span}
    (hwait : p.timeUntilNext = some wait) (due : wait.nanos ≤ elapsed.nanos) :
    (p.advance elapsed).1.timers < p.timers := by
  cases hp : h with
  | playing shown playing off =>
    have hover : p.delay.nanos ≤ p.waited.nanos + elapsed.nanos := by
      rw [timeUntilNext, playing] at hwait
      rw [← Option.some.inj hwait] at due
      exact Nat.sub_le_iff_le_add'.mp due
    let reset := p.waiting ((p.waited.add elapsed).sub p.delay)
    have hcount : Shift (.advance elapsed) p (reset, []) := .count p reset.waited
    have hreset : Tells report events reset := by
      have htells := h.shift hcount
      rwa [List.append_nil] at htells
    have hfirst : Shifts (.advance elapsed) reset reset.elapse := shifts_elapse playing
    have hrest : Shifts (.advance elapsed) reset.elapse.1 (elapseAll p.remaining reset.elapse.1) :=
      shifts_elapseAll p.remaining reset.elapse.1
    have hlater := timers_shifts_le (hreset.shifts hfirst) hrest
    have hless := timers_elapse_lt (p := reset) playing
    rw [advance_of_playing playing off, elapseAll, if_pos ⟨playing, hover⟩]
    exact Nat.lt_of_le_of_lt hlater hless
  | finished shown finished =>
    have hleft : p.celebrationLeft = some wait := by
      rw [timeUntilNext, finished] at hwait
      exact hwait
    rw [advance_of_not_playing (finished.trans_ne State.noConfusion), advanceCelebration, hleft]
    simp only [if_pos due, endCelebration, hleft, timers, finished, isCelebrating]
    exact Nat.zero_lt_one

/-! ### Behind the end -/

/-- Neither time nor a cancel does anything to a playback at its natural end. -/
theorem perform_of_atEnd (finished : p.state = .finished) (off : p.celebrationLeft = none)
    {op : Operation} (hop : op = .cancel ∨ ∃ elapsed, op = .advance elapsed) :
    p.perform op = (p, []) := by
  rcases hop with rfl | ⟨elapsed, rfl⟩
  · rw [perform, attempt, Option.getD_some, cancel, finished]
    simp only [endCelebration, off]
  · rw [perform, attempt, Option.getD_some,
      advance_of_not_playing (finished.trans_ne State.noConfusion), advanceCelebration_of_off off]

theorem performAll_of_atEnd (finished : p.state = .finished) (off : p.celebrationLeft = none)
    {ops : List Operation} (hops : ∀ op ∈ ops, op = .cancel ∨ ∃ elapsed, op = .advance elapsed) :
    performAll ops p = (p, []) := by
  induction ops with
  | nil => rfl
  | cons op rest ih =>
    obtain ⟨hop, hrest⟩ := List.forall_mem_cons.mp hops
    rw [performAll, perform_of_atEnd finished off hop, Change.andThen_eq, ih hrest]
    rfl

/-! ### From the beginning -/

/-- A playback that is started begins its story, and it needs a timer for each
record and two more at most. -/
theorem tells_play (report : Report) (config : PlaybackConfig) :
    Tells report ((ofReport report config true).perform .play).2
        ((ofReport report config true).perform .play).1 ∧
      ((ofReport report config true).perform .play).1.timers ≤
        (ofReport report config true).timers := by
  let started : Playback := { ofReport report config true with state := .playing }
  have hstarted : Tells report [.changed .idle .playing] started :=
    .playing rfl rfl rfl (Nat.zero_le _) rfl
  have happly : Shifts (.advance .zero) started started.applyNext := shifts_applyNext started
  have hfew : started.applyNext.1.timers ≤ started.timers := timers_shifts_le hstarted happly
  exact ⟨hstarted.shifts happly, hfew⟩

end MazeRobot.Playback
