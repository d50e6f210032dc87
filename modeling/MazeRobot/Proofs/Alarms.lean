import MazeRobot.Proofs.Tempo

/-!
# When something happens next

A playback tells how long it takes until something happens by itself. Whoever
sleeps for that long is woken neither too early nor too late: time that falls
short of it changes nothing that a viewer could notice and is taken off it,
and as soon as it is over there is a record, the natural end or the end of a
celebration. Where nothing is announced, time does nothing at all. So whoever
waits for the next change again and again sees a playback to its end, with
little more waits than there are records left.
-/

namespace MazeRobot.Playback

/-- Whether an event is one that time brings: a record, the natural end or the
end of a celebration. -/
def Event.isAwaited : Event → Bool
  | .applied _ _ | .finished _ | .celebrationEnded => true
  | _ => false

/-- Lets the time go by until the next change, and so on, at most so many
times. -/
def awaitMany : Nat → Playback → Change
  | 0, p => (p, [])
  | count + 1, p =>
    match p.timeUntilNext with
    | none => (p, [])
    | some wait => (p.advance wait).andThen (awaitMany count)

theorem awaitMany_of_none (count : Nat) {p : Playback} (h : p.timeUntilNext = none) :
    awaitMany count p = (p, []) := by
  cases count with
  | zero => rfl
  | succ count => rw [awaitMany, h]

theorem awaitMany_of_some (count : Nat) {p : Playback} {wait : Span}
    (h : p.timeUntilNext = some wait) :
    awaitMany (count + 1) p = (p.advance wait).andThen (awaitMany count) := by
  rw [awaitMany, h]

/-- Time goes by and a viewer does not notice. It is only taken off what was
announced. -/
structure Unnoticed (p : Playback) (wait elapsed : Span) : Prop where
  /-- There is no event. -/
  told : (p.advance elapsed).2 = []
  /-- The state is as before. -/
  state : (p.advance elapsed).1.state = p.state
  /-- No record was applied. -/
  cursor : (p.advance elapsed).1.cursor = p.cursor
  /-- The view is as before. -/
  view : (p.advance elapsed).1.view = p.view
  /-- The delay is as before. -/
  delay : (p.advance elapsed).1.delay = p.delay
  /-- What is announced is nearer by that time. -/
  next : (p.advance elapsed).1.timeUntilNext = some (wait.sub elapsed)

section Waiting

variable {report : Report} {p : Playback}

/-- Something is announced where a playback is playing or celebrates. -/
theorem timeUntilNext_cases (h : Reached report p) {wait : Span}
    (hwait : p.timeUntilNext = some wait) :
    (p.state = .playing ∧ p.celebrationLeft = none ∧ wait = p.delay.sub p.waited) ∨
      (p.state = .finished ∧ p.celebrationLeft = some wait) := by
  unfold timeUntilNext at hwait
  split at hwait
  · next playing => exact .inl ⟨playing, h.off_of_playing playing, (Option.some.inj hwait).symm⟩
  · next finished => exact .inr ⟨finished, hwait⟩
  · cases hwait

/-- Where nothing is announced, nothing is played and nothing celebrated. -/
theorem rest_of_timeUntilNext (h : Reached report p) (hwait : p.timeUntilNext = none) :
    p.state ≠ .playing ∧ p.celebrationLeft = none := by
  by_cases finished : p.state = .finished
  · rw [timeUntilNext, finished] at hwait
    exact ⟨finished.trans_ne State.noConfusion, hwait⟩
  · refine ⟨fun playing => ?_, h.off finished⟩
    rw [timeUntilNext, playing] at hwait
    cases hwait

/-- Where nothing is announced, time does nothing at all. -/
theorem advance_of_timeUntilNext_none (h : Reached report p) (hwait : p.timeUntilNext = none)
    (elapsed : Span) : p.advance elapsed = (p, []) := by
  obtain ⟨hs, off⟩ := rest_of_timeUntilNext h hwait
  rw [advance_of_not_playing hs, advanceCelebration_of_off off]

/-- A settled playback announces nothing. -/
theorem timeUntilNext_of_isSettled (settled : p.isSettled = true) : p.timeUntilNext = none := by
  unfold isSettled at settled
  split at settled
  · next cancelled => rw [timeUntilNext, cancelled]
  · next finished =>
    rw [timeUntilNext, finished]
    exact Faithful.celebrationLeft_of_not (by simpa using settled)
  · cases settled

/-- Behind a natural end that is not celebrated any more, a playback is
settled. -/
theorem isSettled_of_finished (finished : p.state = .finished) (off : p.celebrationLeft = none) :
    p.isSettled = true := by
  rw [isSettled, finished]
  dsimp only
  rw [isCelebrating, off]
  rfl

/-- Time that falls short of what is announced is only counted. -/
theorem unnoticed_of_lt (h : Reached report p) {wait elapsed : Span}
    (hwait : p.timeUntilNext = some wait) (hlt : elapsed.nanos < wait.nanos) :
    Unnoticed p wait elapsed := by
  rcases timeUntilNext_cases h hwait with ⟨playing, off, rfl⟩ | ⟨finished, on⟩
  · have hearly : (p.waiting (p.waited.add elapsed)).waited.nanos <
        (p.waiting (p.waited.add elapsed)).delay.nanos := Nat.add_lt_of_lt_sub' hlt
    have hadvance : p.advance elapsed = (p.waiting (p.waited.add elapsed), []) := by
      rw [advance_of_playing playing off, elapseAll_of_early _ hearly]
    have htime : p.delay.sub (p.waited.add elapsed) = (p.delay.sub p.waited).sub elapsed :=
      congrArg Span.mk (Nat.sub_add_eq _ _ _)
    have hnext : (p.waiting (p.waited.add elapsed)).timeUntilNext =
        some ((p.delay.sub p.waited).sub elapsed) := by
      have hstate : (p.waiting (p.waited.add elapsed)).state = .playing := playing
      rw [timeUntilNext, hstate]
      exact congrArg some htime
    refine ⟨congrArg Prod.snd hadvance, congrArg (·.1.state) hadvance,
      congrArg (·.1.cursor) hadvance, congrArg (·.1.view) hadvance,
      congrArg (·.1.delay) hadvance, ?_⟩
    rw [hadvance]
    exact hnext
  · have hadvance : p.advance elapsed =
        ({ p with celebrationLeft := some (wait.sub elapsed) }, []) := by
      rw [advance_of_not_playing (finished.trans_ne State.noConfusion), advanceCelebration, on]
      exact if_neg (Nat.not_le.mpr hlt)
    refine ⟨congrArg Prod.snd hadvance, congrArg (·.1.state) hadvance,
      congrArg (·.1.cursor) hadvance, congrArg (·.1.view) hadvance,
      congrArg (·.1.delay) hadvance, ?_⟩
    rw [hadvance, timeUntilNext, finished]

/-- When what is announced is over, so is a delay. -/
theorem due_pos (positive : 0 < p.delay.nanos) :
    0 < (p.waited.nanos + (p.delay.sub p.waited).nanos) / p.delay.nanos := by
  refine Nat.div_pos ?_ positive
  change p.delay.nanos ≤ p.waited.nanos + (p.delay.nanos - p.waited.nanos)
  omega

/-- When the time that is left of a celebration is over, so is the
celebration. -/
theorem advance_celebrationLeft {left : Span} (finished : p.state = .finished)
    (on : p.celebrationLeft = some left) :
    p.advance left =
      ({ p with celebrationLeft := none, view := { p.view with celebrating := false } },
        [.celebrationEnded]) := by
  rw [advance_of_not_playing (finished.trans_ne State.noConfusion), advanceCelebration, on]
  simp only [if_pos (Nat.le_refl _), endCelebration, on]

/-- As soon as what is announced is over, there is something to tell. -/
theorem exists_isAwaited_advance (h : Reached report p) {wait : Span}
    (hwait : p.timeUntilNext = some wait) :
    ∃ event ∈ (p.advance wait).2, event.isAwaited = true := by
  rcases timeUntilNext_cases h hwait with ⟨playing, off, rfl⟩ | ⟨finished, on⟩
  · have hdue := due_pos h.positive
    by_cases hleft : p.remaining = 0
    · -- Without a record that is left, this is the natural end.
      have hnone : (applyMany p.remaining p).andThen finish = p.finish := by
        rw [hleft]
        rfl
      rw [advance_eq_lapse playing off h.positive, lapse,
        if_neg (by rw [hleft]; exact Nat.not_le.mpr hdue), hnone, finish_of_playing playing]
      exact ⟨.finished p.report.result, List.mem_cons_of_mem _ List.mem_cons_self, rfl⟩
    · have hsome : 0 < (records (p.advance (p.delay.sub p.waited)).2).length := by
        rw [length_records_advance h, if_pos playing]
        exact Nat.lt_min.mpr ⟨hdue, Nat.pos_of_ne_zero hleft⟩
      obtain ⟨event, hevent⟩ := List.exists_mem_of_length_pos hsome
      obtain ⟨hmem, hrecord⟩ := List.mem_filter.mp hevent
      refine ⟨event, hmem, ?_⟩
      cases event with
      | applied index record => rfl
      | _ => cases hrecord
  · rw [advance_celebrationLeft finished on]
    exact ⟨.celebrationEnded, List.mem_singleton_self _, rfl⟩

/-! ### To the end -/

/-- What leads a playback to its natural end, behind which nothing happens by
itself any more, and tells all records that were left. -/
structure Completed (report : Report) (p : Playback) (c : Change) : Prop where
  /-- It has finished. -/
  finished : c.1.state = .finished
  /-- Nothing is celebrated any more. -/
  off : c.1.celebrationLeft = none
  /-- All records were applied. -/
  all : c.1.cursor = report.trace.length
  /-- Those that were left were told, in order, and no other. -/
  told : records c.2 = (recital report).drop p.cursor

/-- Behind the natural end there is a celebration to wait for at most. -/
theorem completed_awaitMany_of_finished (h : Reached report p) (finished : p.state = .finished)
    (all : p.cursor = report.trace.length) (count : Nat) :
    Completed report p (awaitMany (count + 1) p) := by
  have htold : [] = (recital report).drop p.cursor := by rw [all, drop_recital_length]
  cases hwait : p.timeUntilNext with
  | none =>
    rw [awaitMany_of_none _ hwait]
    exact ⟨finished, (rest_of_timeUntilNext h hwait).2, all, htold⟩
  | some wait =>
    have on : p.celebrationLeft = some wait := by
      rw [timeUntilNext, finished] at hwait
      exact hwait
    have hadvance := advance_celebrationLeft finished on
    have hrest : (p.advance wait).1.timeUntilNext = none := by
      rw [hadvance, timeUntilNext, finished]
    rw [awaitMany_of_some _ hwait, Change.andThen_eq, awaitMany_of_none _ hrest, hadvance]
    exact ⟨finished, rfl, all, htold⟩

/-- Each wait of a playback that is playing brings a record at least, or the
natural end. -/
theorem completed_awaitMany_of_playing (h : Reached report p) (playing : p.state = .playing)
    {count : Nat} (hcount : p.remaining + 2 ≤ count) :
    Completed report p (awaitMany count p) := by
  induction count generalizing p with
  | zero => omega
  | succ count ih =>
    have hwait : p.timeUntilNext = some (p.delay.sub p.waited) := by rw [timeUntilNext, playing]
    have hreached : Reached report (p.advance (p.delay.sub p.waited)).1 :=
      h.performAll [.advance (p.delay.sub p.waited)]
    have hrecords := records_advance h (p.delay.sub p.waited)
    have hdue := due_pos h.positive
    rw [if_pos playing] at hrecords
    rw [awaitMany_of_some _ hwait, Change.andThen_eq]
    rcases advance_cases h playing (p.delay.sub p.waited) with
      ⟨hle, view, hc⟩ | ⟨hgt, left, view, sink, hc⟩
    · generalize (p.waited.nanos + (p.delay.sub p.waited).nanos) / p.delay.nanos = due at *
      have hplaying : (p.advance (p.delay.sub p.waited)).1.state = .playing := by
        rw [hc]
        exact playing
      have hleft : (p.advance (p.delay.sub p.waited)).1.remaining + due = p.remaining := by
        rw [hc]
        simp only [remaining, length] at hle ⊢
        omega
      have hlater := ih hreached hplaying (by omega)
      refine ⟨hlater.finished, hlater.off, hlater.all, ?_⟩
      rw [records_append, hrecords, hlater.told, hc, ← List.drop_drop, List.take_append_drop]
    · obtain ⟨count, rfl⟩ := Nat.exists_eq_add_one_of_ne_zero (n := count) (by omega)
      have hfinished : (p.advance (p.delay.sub p.waited)).1.state = .finished := by rw [hc]
      have hall : (p.advance (p.delay.sub p.waited)).1.cursor = report.trace.length := by
        rw [hc, ← h.shown]
        rfl
      have hlater := completed_awaitMany_of_finished hreached hfinished hall count
      have hlength := length_drop_recital h
      refine ⟨hlater.finished, hlater.off, hlater.all, ?_⟩
      rw [records_append, hrecords, hlater.told, hall, drop_recital_length, List.append_nil,
        List.take_of_length_le (by omega)]

end Waiting

/-- What a playback announces is exact, whatever was done with it before. Time
that falls short of it brings no event, changes neither state nor cursor nor
view nor delay, and is taken off it; when it is over there is a record, the
natural end or the end of a celebration. Where nothing is announced, and so
where a playback is settled, time does nothing. And whoever waits for what is
announced, again and again, is told all records that are left and the natural
end, with two waits more than there are records left, or fewer. -/
theorem performAll_timeUntilNext_exact (report : Report) (config : PlaybackConfig) (taken : Bool)
    (ops : List Operation) :
    let p := (performAll ops (ofReport report config taken)).1
    (∀ wait, p.timeUntilNext = some wait →
        (∀ elapsed, elapsed.nanos < wait.nanos → Unnoticed p wait elapsed) ∧
          ∃ event ∈ (p.advance wait).2, event.isAwaited = true) ∧
      (p.timeUntilNext = none → ∀ elapsed, p.advance elapsed = (p, [])) ∧
      (p.isSettled = true → ∀ spans : List Span, performAll (spans.map .advance) p = (p, [])) ∧
      (p.state = .playing →
        (awaitMany (p.remaining + 2) p).1.state = .finished ∧
          (awaitMany (p.remaining + 2) p).1.isSettled = true ∧
          (awaitMany (p.remaining + 2) p).1.cursor = report.trace.length ∧
          records (awaitMany (p.remaining + 2) p).2 = (recital report).drop p.cursor) := by
  intro p
  have h : Reached report p := reached_performAll report config taken ops
  refine ⟨fun wait hwait => ⟨fun elapsed hlt => unnoticed_of_lt h hwait hlt,
    exists_isAwaited_advance h hwait⟩, advance_of_timeUntilNext_none h, fun settled spans => ?_,
    fun playing => ?_⟩
  · induction spans with
    | nil => rfl
    | cons elapsed rest ih =>
      have hfirst : p.perform (.advance elapsed) = (p, []) :=
        advance_of_timeUntilNext_none h (timeUntilNext_of_isSettled settled) elapsed
      rw [List.map_cons, performAll, hfirst, Change.andThen_eq, ih]
      rfl
  · have hcompleted := completed_awaitMany_of_playing h playing (Nat.le_refl _)
    exact ⟨hcompleted.finished, isSettled_of_finished hcompleted.finished hcompleted.off,
      hcompleted.all, hcompleted.told⟩

end MazeRobot.Playback
