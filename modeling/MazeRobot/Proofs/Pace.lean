import MazeRobot.Proofs.Due

/-!
# Holding a playback

A playback that is started and then only held, let go on and given time
depends on how long it was playing and on nothing else. The first record is
applied at once and one more after every delay, and one delay behind the last
record it finishes. Time that goes by while it is held plays no part, nor does
the way in which the time is cut into advances.
-/

namespace MazeRobot.Playback

/-- There is always some time between two records. -/
theorem delayFor_pos (config : PlaybackConfig) (millis : UInt64) :
    0 < (delayFor config millis).nanos :=
  Nat.lt_of_lt_of_le (by decide : 0 < leastDelay.nanos) (Nat.le_max_right _ _)

/-- What was left of some time and more time are the delays that became due
since and what is left of both. -/
theorem mod_add_eq (time elapsed delay : Nat) :
    time % delay + elapsed =
      ((time + elapsed) / delay - time / delay) * delay + (time + elapsed) % delay := by
  have hbefore := Nat.div_add_mod' time delay
  have hafter := Nat.div_add_mod' (time + elapsed) delay
  have hmono : time / delay * delay ≤ (time + elapsed) / delay * delay :=
    Nat.mul_le_mul_right _ (Nat.div_le_div_right (Nat.le_add_right _ _))
  rw [Nat.sub_mul]
  omega

/-- Delays that become due before the end apply as many records. -/
theorem cursor_of_early {records before after : Nat} (hle : before ≤ after)
    (hearly : after < max records 1) :
    min records (1 + before) + (after - before) = min records (1 + after) := by
  omega

/-- At the end there are more of them than records left. -/
theorem remaining_of_late {records before after : Nat} (hearly : before < max records 1)
    (hlate : max records 1 ≤ after) :
    records - min records (1 + before) + 1 ≤ after - before := by
  omega

/-- Whether an operation starts a playback, holds it, lets it go on or gives
it time. -/
def Operation.isPacing : Operation → Bool
  | play | pause | resume | toggle | advance _ => true
  | step | setDelay _ | cancel | reset | rewind => false

/-- The time that an operation gives to a playback that is playing. -/
def Operation.timeFor (p : Playback) : Operation → Span
  | advance elapsed => if p.state = .playing then elapsed else .zero
  | _ => .zero

/-- The time that goes by while a playback is playing. -/
def playingTime : List Operation → Playback → Span
  | [], _ => .zero
  | op :: rest, p => (op.timeFor p).add (playingTime rest (p.perform op).1)

/-- A playback that has been playing for some time and is not at its end. -/
structure Underway (report : Report) (config : PlaybackConfig) (taken : Bool) (time : Nat)
    (p : Playback) : Prop where
  /-- The report is the one that is shown. -/
  shown : p.report = report
  /-- The delay is that of the configuration. -/
  delay : p.delay = delayFor config config.delay
  /-- It is playing or held. -/
  state : p.state = .playing ∨ p.state = .paused
  /-- Nothing is celebrated. -/
  off : p.celebrationLeft = none
  /-- The result was not handed in. -/
  unsubmitted : p.submitted = false
  /-- Nobody got it. -/
  sink : p.sink = if taken then some [] else none
  /-- There is a delay for every record, and one if there is none. -/
  early : time / p.delay.nanos < max p.length 1
  /-- The first record was applied at once and one more after every delay. -/
  cursor : p.cursor = min p.length (1 + time / p.delay.nanos)
  /-- The rest of the time was since the latest record. -/
  waited : p.waited.nanos = time % p.delay.nanos

/-- A playback that has been playing for some time and came to its end. -/
structure Over (report : Report) (config : PlaybackConfig) (taken : Bool) (time : Nat)
    (p : Playback) : Prop where
  /-- It has finished. -/
  state : p.state = .finished
  /-- All records were applied. -/
  cursor : p.cursor = report.trace.length
  /-- The result was handed in once. -/
  sink : p.sink = if taken then some [report.result] else none
  /-- There was a delay for every record, and one if there is none. -/
  late : max report.trace.length 1 ≤ time / (delayFor config config.delay).nanos

variable {report : Report} {config : PlaybackConfig} {taken : Bool} {time : Nat} {p : Playback}

/-- It is in no other state. -/
theorem Underway.ne_state (h : Underway report config taken time p) {s : State}
    (hplaying : .playing ≠ s) (hpaused : .paused ≠ s) : p.state ≠ s := by
  rcases h.state with playing | paused
  · exact playing.trans_ne hplaying
  · exact paused.trans_ne hpaused

/-- Holding a playback or letting it go on changes nothing else. -/
theorem Underway.withState (h : Underway report config taken time p) {after : State}
    (hafter : after = .playing ∨ after = .paused) :
    Underway report config taken time { p with state := after } :=
  ⟨h.shown, h.delay, hafter, h.off, h.unsubmitted, h.sink, h.early, h.cursor, h.waited⟩

/-- As long as there are records for the delays that are due, a playback is
under way. -/
theorem Underway.advance (h : Underway report config taken time p) (playing : p.state = .playing)
    {elapsed : Span} (hearly : (time + elapsed.nanos) / p.delay.nanos < max p.length 1) :
    Underway report config taken (time + elapsed.nanos) (p.advance elapsed).1 := by
  have positive : 0 < p.delay.nanos := by
    rw [h.delay]
    exact delayFor_pos _ _
  have hmono : time / p.delay.nanos ≤ (time + elapsed.nanos) / p.delay.nanos :=
    Nat.div_le_div_right (Nat.le_add_right _ _)
  have htime := mod_add_eq time elapsed.nanos p.delay.nanos
  rw [← h.waited] at htime
  have hcursor := cursor_of_early hmono hearly
  rw [← h.cursor] at hcursor
  have hfit : p.cursor + ((time + elapsed.nanos) / p.delay.nanos - time / p.delay.nanos) ≤
      p.length := by
    rw [hcursor]
    exact Nat.min_le_left _ _
  have hle := Nat.le_sub_of_add_le' hfit
  have hrest := Nat.mod_lt (time + elapsed.nanos) positive
  obtain ⟨view, hview⟩ := applyMany_eq hfit
  rw [advance_of_le playing h.off hrest htime hle, applyMany_waiting, hview]
  exact ⟨h.shown, h.delay, h.state, h.off, h.unsubmitted, h.sink, hearly, hcursor, rfl⟩

/-- Once there are more delays due than records left, it has finished. -/
theorem Underway.finish (h : Underway report config taken time p) (playing : p.state = .playing)
    {elapsed : Span} (hlate : max p.length 1 ≤ (time + elapsed.nanos) / p.delay.nanos) :
    Over report config taken (time + elapsed.nanos) (p.advance elapsed).1 := by
  have htime := mod_add_eq time elapsed.nanos p.delay.nanos
  rw [← h.waited] at htime
  have hdue := remaining_of_late h.early hlate
  rw [← h.cursor] at hdue
  have hover : (p.remaining + 1) * p.delay.nanos ≤ p.waited.nanos + elapsed.nanos := by
    have hmul := Nat.mul_le_mul_right p.delay.nanos hdue
    rw [htime]
    exact Nat.le_trans hmul (Nat.le_add_right _ _)
  have hall : p.cursor + p.remaining = p.length :=
    Nat.add_sub_cancel' (by rw [h.cursor]; exact Nat.min_le_left _ _)
  obtain ⟨view, hview⟩ := applyMany_eq (Nat.le_of_eq hall)
  rw [advance_of_gt playing h.off hover, Change.andThen_eq, hview]
  obtain ⟨left, shown, hfinish⟩ := finish_eq
    (p := { p with cursor := p.cursor + p.remaining, view := view }) playing
  rw [hfinish]
  refine ⟨rfl, ?_, ?_, ?_⟩
  · rw [← h.shown]
    exact hall
  · dsimp only
    rw [h.unsubmitted, h.sink, h.shown]
    cases taken <;> rfl
  · rwa [← h.delay, ← h.shown]

/-- Going to one of these states, or staying, changes nothing else. -/
theorem Underway.moveTo (h : Underway report config taken time p) {after : State}
    (hafter : after = .playing ∨ after = .paused) :
    Underway report config taken time (p.moveTo after).1 := by
  rw [moveTo_eq]
  exact h.withState hafter

theorem Underway.pause (h : Underway report config taken time p) :
    Underway report config taken time (p.pause.getD (p, [])).1 := by
  unfold Playback.pause
  split
  · exact h.moveTo (.inr rfl)
  · exact h

theorem Underway.resume (h : Underway report config taken time p) :
    Underway report config taken time (p.resume.getD (p, [])).1 := by
  unfold Playback.resume
  split
  · exact h.moveTo (.inl rfl)
  · exact h

/-- A playback after some playing time: under way, or at its end. -/
def Paced (report : Report) (config : PlaybackConfig) (taken : Bool) (time : Nat)
    (p : Playback) : Prop :=
  Underway report config taken time p ∨ Over report config taken time p

/-- Under way, only an advance while playing counts. -/
theorem Underway.perform (h : Underway report config taken time p) {op : Operation}
    (pacing : op.isPacing = true) :
    Paced report config taken (time + (op.timeFor p).nanos) (p.perform op).1 := by
  cases op with
  | play =>
    have hidle : p.state ≠ .idle := h.ne_state State.noConfusion State.noConfusion
    have hrefused : p.play = none := if_neg hidle
    rw [Playback.perform, attempt, hrefused]
    exact .inl h
  | pause => exact .inl h.pause
  | resume => exact .inl h.resume
  | toggle =>
    rw [Playback.perform, attempt, toggle]
    split
    · exact .inl h.pause
    · exact .inl h.resume
    · exact .inl h
  | advance elapsed =>
    rw [Operation.timeFor, Playback.perform, attempt, Option.getD_some]
    rcases h.state with playing | paused
    · rw [if_pos playing]
      rcases Nat.lt_or_ge ((time + elapsed.nanos) / p.delay.nanos) (max p.length 1) with
        early | late
      · exact .inl (h.advance playing early)
      · exact .inr (h.finish playing late)
    · have hne : p.state ≠ .playing := paused.trans_ne State.noConfusion
      rw [if_neg hne, advance_of_not_playing hne, advanceCelebration_of_off h.off]
      exact .inl h
  | _ => cases pacing

/-- Later, what was over is over. -/
theorem Over.later (h : Over report config taken time p) (more : Nat) :
    Over report config taken (time + more) p :=
  ⟨h.state, h.cursor, h.sink,
    Nat.le_trans h.late (Nat.div_le_div_right (Nat.le_add_right _ _))⟩

/-- At the end all of these are refused, but for time that goes by, and that
concerns a celebration alone. -/
theorem Over.perform (h : Over report config taken time p) {op : Operation}
    (pacing : op.isPacing = true) : Over report config taken time (p.perform op).1 := by
  have hne : ∀ {s : State}, .finished ≠ s → p.state ≠ s := h.state.trans_ne
  have hrefused : p.attempt op = none → Over report config taken time (p.perform op).1 := by
    intro hop
    rw [Playback.perform, hop]
    exact h
  cases op with
  | play => exact hrefused (if_neg (hne State.noConfusion))
  | pause => exact hrefused (if_neg (hne State.noConfusion))
  | resume => exact hrefused (if_neg (hne State.noConfusion))
  | toggle => exact hrefused (by rw [attempt, toggle, h.state])
  | advance elapsed =>
    obtain ⟨left, view, ha⟩ := p.advanceCelebration_eq elapsed
    rw [Playback.perform, attempt, Option.getD_some,
      advance_of_not_playing (hne State.noConfusion), ha]
    exact ⟨h.state, h.cursor, h.sink, h.late⟩
  | _ => cases pacing

/-- Operations add the time for which the playback was playing. -/
theorem Paced.performAll (h : Paced report config taken time p) {ops : List Operation}
    (pacing : ∀ op ∈ ops, op.isPacing = true) :
    Paced report config taken (time + (playingTime ops p).nanos) (performAll ops p).1 := by
  induction ops generalizing time p with
  | nil => exact h
  | cons op rest ih =>
    have hop := pacing op List.mem_cons_self
    have hrest : ∀ next ∈ rest, next.isPacing = true := fun next hnext =>
      pacing next (List.mem_cons_of_mem op hnext)
    have hfirst : Paced report config taken (time + (op.timeFor p).nanos) (p.perform op).1 := by
      rcases h with h | h
      · exact h.perform hop
      · exact .inr ((h.perform hop).later _)
    have hall := ih hfirst hrest
    rw [Nat.add_assoc] at hall
    exact hall

/-- The first record, if there is one, is applied as soon as a playback is
started. -/
theorem underway_play (report : Report) (config : PlaybackConfig) (taken : Bool) :
    Underway report config taken 0 ((ofReport report config taken).perform .play).1 := by
  let started : Playback :=
    { ofReport report config taken with state := .playing, waited := .zero }
  have hplay : ((ofReport report config taken).perform .play).1 = started.applyNext.1 := rfl
  have hcursor : started.applyNext.1.cursor = min started.length 1 := by
    rcases Nat.eq_zero_or_pos started.length with hnone | hsome
    · have hget : started.report.trace.get? started.cursor = none :=
        Array.getElem?_eq_none (Nat.le_of_eq hnone)
      rw [applyNext, hget, hnone]
      rfl
    · rw [cursor_applyNext hsome, Nat.min_eq_right hsome]
      rfl
  obtain ⟨cursor, view, h⟩ := started.applyNext_eq
  rw [h] at hcursor
  rw [hplay, h]
  refine ⟨rfl, rfl, .inl rfl, rfl, rfl, rfl, ?_, ?_, (Nat.zero_mod _).symm⟩
  · rw [Nat.zero_div]
    exact Nat.lt_of_lt_of_le Nat.zero_lt_one (Nat.le_max_right _ _)
  · rw [Nat.zero_div]
    exact hcursor

/-- How far a playback came, whether it is at its end and whether its result
was handed in depends on nothing but the time for which it was playing. -/
theorem performAll_pacing (report : Report) (config : PlaybackConfig) (taken : Bool)
    {ops : List Operation} (pacing : ∀ op ∈ ops, op.isPacing = true) :
    let fresh := ofReport report config taken
    let p := (performAll (.play :: ops) fresh).1
    let due := (playingTime (.play :: ops) fresh).nanos / fresh.delay.nanos
    p.cursor = min report.trace.length (1 + due) ∧
      (p.state = .finished ↔ max report.trace.length 1 ≤ due) ∧
      p.sink = if taken then some (if p.state = .finished then [report.result] else [])
        else none := by
  intro fresh p due
  have hpaced : Paced report config taken (playingTime (.play :: ops) fresh).nanos p :=
    Paced.performAll (.inl (underway_play report config taken)) pacing
  rcases hpaced with h | h
  · have hstate : p.state ≠ .finished := h.ne_state State.noConfusion State.noConfusion
    have hlength : p.length = report.trace.length := congrArg (·.trace.length) h.shown
    have hcursor := h.cursor
    have hearly := h.early
    rw [hlength, h.delay] at hcursor hearly
    refine ⟨hcursor, ⟨fun hs => absurd hs hstate, fun hlate => ?_⟩, ?_⟩
    · exact absurd hlate (Nat.not_le.mpr hearly)
    · rw [h.sink, if_neg hstate]
  · have hlate := h.late
    refine ⟨?_, ⟨fun _ => hlate, fun _ => h.state⟩, ?_⟩
    · have hall : report.trace.length ≤ 1 + due := by
        have hle : report.trace.length ≤ max report.trace.length 1 := Nat.le_max_left _ _
        have hdue : max report.trace.length 1 ≤ due := hlate
        omega
      rw [h.cursor, Nat.min_eq_left hall]
    · rw [h.sink, if_pos h.state]

/-- The report on two moves to the goal and the closing line. -/
def stroll : Report where
  outcome := .completed .goal
  result := ⟨true, 2⟩
  start := ⟨0, 1⟩
  goal := ⟨2, 1⟩
  ticks := 2
  trace := ⟨#[
    ⟨.move, ⟨1, 1⟩, .east, "Moved to (1, 1)"⟩,
    ⟨.move, ⟨2, 1⟩, .east, "Moved to (2, 1)"⟩,
    ⟨.log, ⟨2, 1⟩, .east, "✅ Goal reached!"⟩]⟩

/-- Three delays of a playback that is held twice, in pieces. -/
def halts : List Operation :=
  [.advance (.ofMillis 450), .pause, .advance (.ofMillis 10000), .play, .resume,
    .advance (.ofMillis 449), .toggle, .advance (.ofMillis 300), .toggle,
    .advance (.ofMillis 1)]

/-- Three records take three delays, however they are cut into pieces. -/
theorem performAll_pacing_stroll :
    .pause ∈ halts ∧ (∀ op ∈ halts, op.isPacing = true) ∧
      playingTime (.play :: halts) (ofReport stroll {} true) = .ofMillis 900 ∧
      (ofReport stroll {} true).delay = .ofMillis 300 ∧
      (performAll (.play :: halts) (ofReport stroll {} true)).1.cursor = 3 ∧
      (performAll (.play :: halts) (ofReport stroll {} true)).1.state = .finished ∧
      (performAll (.play :: halts) (ofReport stroll {} true)).1.sink = some [⟨true, 2⟩] := by
  have hops : ∀ op ∈ halts, op.isPacing = true := by decide
  have htime : playingTime (.play :: halts) (ofReport stroll {} true) = .ofMillis 900 := by
    decide +kernel
  have hdelay : (ofReport stroll {} true).delay = .ofMillis 300 := by decide +kernel
  have hdue : (Span.ofMillis 900).nanos / (Span.ofMillis 300).nanos = 3 := rfl
  obtain ⟨hcursor, hstate, hsink⟩ := performAll_pacing stroll {} true hops
  rw [htime, hdelay, hdue] at hcursor hstate
  have hfinished := hstate.mpr (Nat.le_refl 3)
  rw [if_pos hfinished] at hsink
  exact ⟨by decide, hops, htime, hdelay, hcursor, hfinished, hsink⟩

end MazeRobot.Playback
