import MazeRobot.Proofs.Replay

/-!
# Delays that are due

Time that goes by is gone through in delays: one for each record that is left
and one more for the natural end. How many are due is a quotient, and what is
left of the time is the remainder. So an advance has a closed form: either
that many records are applied, or there are fewer, and the playback finishes
behind them. The bound on how many delays are looked at never matters.
-/

namespace MazeRobot.Playback

/-- A playback with another time since the latest record. -/
def waiting (p : Playback) (waited : Span) : Playback :=
  { p with waited := waited }

theorem waited_waiting (p : Playback) (waited : Span) : (p.waiting waited).waited = waited := rfl

theorem delay_waiting (p : Playback) (waited : Span) : (p.waiting waited).delay = p.delay := rfl

theorem remaining_waiting (p : Playback) (waited : Span) :
    (p.waiting waited).remaining = p.remaining := rfl

/-- Applies so many records, one after the other. -/
def applyMany : Nat → Playback → Change
  | 0, p => (p, [])
  | count + 1, p => p.applyNext.andThen (applyMany count)

section Records

variable (p : Playback)

/-- The time since the latest record plays no part in applying one. -/
theorem applyNext_waiting (waited : Span) :
    (p.waiting waited).applyNext = (p.applyNext.1.waiting waited, p.applyNext.2) := by
  unfold applyNext waiting
  dsimp only
  cases p.report.trace.get? p.cursor <;> rfl

theorem applyMany_waiting (count : Nat) (waited : Span) :
    applyMany count (p.waiting waited) =
      ((applyMany count p).1.waiting waited, (applyMany count p).2) := by
  induction count generalizing p with
  | zero => rfl
  | succ count ih => simp only [applyMany, Change.andThen_eq, applyNext_waiting, ih]

/-- Nor does it play a part in the natural end. -/
theorem finish_waiting (waited : Span) : (p.waiting waited).finish = p.finish := rfl

/-- Applying the next record changes the cursor and the view and nothing
else. -/
theorem applyNext_eq :
    ∃ cursor view, p.applyNext.1 = { p with cursor := cursor, view := view } := by
  unfold applyNext
  split
  · exact ⟨p.cursor, p.view, rfl⟩
  · exact ⟨_, _, rfl⟩

theorem state_applyNext : p.applyNext.1.state = p.state := by
  obtain ⟨cursor, view, h⟩ := p.applyNext_eq
  rw [h]

theorem delay_applyNext : p.applyNext.1.delay = p.delay := by
  obtain ⟨cursor, view, h⟩ := p.applyNext_eq
  rw [h]

theorem length_applyNext : p.applyNext.1.length = p.length := by
  obtain ⟨cursor, view, h⟩ := p.applyNext_eq
  rw [h]
  rfl

variable {p}

/-- Where there is a next record, the cursor goes on by one. -/
theorem cursor_applyNext (hlt : p.cursor < p.length) :
    p.applyNext.1.cursor = p.cursor + 1 := by
  have hget : p.report.trace.get? p.cursor = some p.report.trace.records[p.cursor] :=
    Array.getElem?_eq_getElem hlt
  rw [applyNext, hget]

theorem remaining_applyNext (hlt : p.cursor < p.length) :
    p.remaining = p.applyNext.1.remaining + 1 := by
  rw [remaining, remaining, length_applyNext, cursor_applyNext hlt]
  omega

/-- Applying records changes the cursor and the view and nothing else. -/
theorem applyMany_eq {count : Nat} (hle : p.cursor + count ≤ p.length) :
    ∃ view, (applyMany count p).1 = { p with cursor := p.cursor + count, view := view } := by
  induction count generalizing p with
  | zero => exact ⟨p.view, rfl⟩
  | succ count ih =>
    have hcursor : p.applyNext.1.cursor = p.cursor + 1 := cursor_applyNext (by omega)
    obtain ⟨cursor, first, hfirst⟩ := p.applyNext_eq
    rw [hfirst] at hcursor
    obtain ⟨view, hview⟩ := ih (p := p.applyNext.1)
      (by rw [length_applyNext, hfirst, hcursor]; omega)
    refine ⟨view, ?_⟩
    rw [applyMany, Change.andThen_eq, hview, hfirst, hcursor, Nat.add_right_comm, Nat.add_assoc]

end Records

/-- What the natural end leaves behind. -/
theorem finish_eq {p : Playback} (playing : p.state = .playing) :
    ∃ left view, p.finish.1 = { p with
      waited := .zero
      state := .finished
      submitted := true
      sink := if p.submitted then p.sink else p.sink.map (· ++ [p.report.result])
      celebrationLeft := left
      view := view } := by
  obtain ⟨left, view, h⟩ := celebrate_eq p.ended
  rw [ended_eq] at h
  exact ⟨left, view, by rw [finish_of_playing playing, ended_eq, h]⟩

/-- Unless a playback is playing, no delay is gone through. -/
theorem elapseAll_of_not_playing (count : Nat) {p : Playback} (hs : p.state ≠ .playing) :
    elapseAll count p = (p, []) := by
  cases count with
  | zero => rfl
  | succ count => exact if_neg fun due => hs due.1

/-- Before a delay is over, nothing happens. -/
theorem elapseAll_of_early (count : Nat) {p : Playback} (hlt : p.waited.nanos < p.delay.nanos) :
    elapseAll count p = (p, []) := by
  cases count with
  | zero => rfl
  | succ count => exact if_neg fun due => Nat.not_lt.mpr due.2 hlt

/-- A delay that is over is taken off the time, and the next record is
applied. -/
theorem elapseAll_of_next {count : Nat} {p : Playback} (playing : p.state = .playing)
    (due : p.delay.nanos ≤ p.waited.nanos) (hlt : p.cursor < p.length) :
    elapseAll (count + 1) p = p.applyNext.andThen fun q =>
      elapseAll count (q.waiting (p.waited.sub p.delay)) := by
  have helapse : (p.waiting (p.waited.sub p.delay)).elapse =
      (p.waiting (p.waited.sub p.delay)).applyNext := if_pos hlt
  rw [applyNext_waiting] at helapse
  rw [elapseAll, if_pos ⟨playing, due⟩]
  exact congrArg (Change.andThen · (elapseAll count)) helapse

/-- Behind the last record, a delay that is over is the end. -/
theorem elapseAll_of_end {count : Nat} {p : Playback} (playing : p.state = .playing)
    (due : p.delay.nanos ≤ p.waited.nanos) (hend : p.length ≤ p.cursor) :
    elapseAll (count + 1) p = p.finish := by
  have helapse : { p with waited := p.waited.sub p.delay }.elapse = p.finish :=
    if_neg (Nat.not_lt.mpr hend)
  have hstate : p.finish.1.state ≠ .playing := by
    obtain ⟨left, view, h⟩ := finish_eq playing
    rw [h]
    exact State.noConfusion
  rw [elapseAll, if_pos ⟨playing, due⟩, helapse, Change.andThen_eq,
    elapseAll_of_not_playing count hstate, List.append_nil]

/-- If there is a record for every delay that is due, so many are applied, and
what is left of the time is kept. -/
theorem elapseAll_of_le {due count rest : Nat} {p : Playback} (playing : p.state = .playing)
    (hrest : rest < p.delay.nanos) (hwaited : p.waited.nanos = due * p.delay.nanos + rest)
    (hle : due ≤ p.remaining) (hcount : due ≤ count) :
    elapseAll count p = applyMany due (p.waiting ⟨rest⟩) := by
  induction due generalizing count p with
  | zero =>
    rw [Nat.zero_mul, Nat.zero_add] at hwaited
    have hlt : p.waited.nanos < p.delay.nanos := by omega
    rw [elapseAll_of_early count hlt, ← hwaited]
    rfl
  | succ due ih =>
    obtain ⟨count, rfl⟩ := Nat.exists_eq_add_one_of_ne_zero (n := count) (by omega)
    rw [Nat.succ_mul] at hwaited
    have hover : p.delay.nanos ≤ p.waited.nanos := by omega
    have hcursor : p.cursor < p.length := by
      rw [remaining] at hle
      omega
    have hremaining := remaining_applyNext hcursor
    have hlater := ih (p := p.applyNext.1.waiting (p.waited.sub p.delay))
      (p.state_applyNext.trans playing) (by rw [delay_waiting, delay_applyNext]; exact hrest)
      (by rw [delay_waiting, delay_applyNext, waited_waiting, Span.sub]; dsimp only; omega)
      (by rw [remaining_waiting]; omega) (Nat.le_of_succ_le_succ hcount)
    rw [elapseAll_of_next playing hover hcursor, applyMany, applyNext_waiting,
      Change.andThen_eq, Change.andThen_eq, hlater]
    rfl

/-- If there are more delays due than records left, all of them are applied and
the playback finishes. -/
theorem elapseAll_of_gt {left count : Nat} {p : Playback} (playing : p.state = .playing)
    (hleft : p.remaining = left) (hover : (left + 1) * p.delay.nanos ≤ p.waited.nanos)
    (hcount : left < count) : elapseAll count p = (applyMany left p).andThen finish := by
  induction left generalizing count p with
  | zero =>
    obtain ⟨count, rfl⟩ := Nat.exists_eq_add_one_of_ne_zero (n := count) (by omega)
    rw [Nat.zero_add, Nat.one_mul] at hover
    exact elapseAll_of_end playing hover (Nat.le_of_sub_eq_zero hleft)
  | succ left ih =>
    obtain ⟨count, rfl⟩ := Nat.exists_eq_add_one_of_ne_zero (n := count) (by omega)
    rw [Nat.succ_mul] at hover
    have hdue : p.delay.nanos ≤ p.waited.nanos := by omega
    have hcursor : p.cursor < p.length := by
      rw [remaining] at hleft
      omega
    have hremaining := remaining_applyNext hcursor
    have hlater := ih (p := p.applyNext.1.waiting (p.waited.sub p.delay))
      (p.state_applyNext.trans playing) (by rw [remaining_waiting]; omega)
      (by rw [delay_waiting, delay_applyNext, waited_waiting, Span.sub]; dsimp only; omega)
      (Nat.lt_of_succ_lt_succ hcount)
    rw [elapseAll_of_next playing hdue hcursor, applyMany, Change.andThen_eq, Change.andThen_eq,
      hlater, applyMany_waiting, Change.andThen_eq, finish_waiting, Change.andThen_eq,
      List.append_assoc]

/-- The time of a celebration changes nothing but the celebration. -/
theorem advanceCelebration_eq (p : Playback) (elapsed : Span) :
    ∃ left view, (p.advanceCelebration elapsed).1 =
      { p with celebrationLeft := left, view := view } := by
  unfold advanceCelebration
  split
  · exact ⟨p.celebrationLeft, p.view, rfl⟩
  · split
    · obtain ⟨view, events, h⟩ := endCelebration_eq p
      exact ⟨none, view, congrArg Prod.fst h⟩
    · exact ⟨_, p.view, rfl⟩

/-- Unless a playback is playing, an advance concerns its celebration alone. -/
theorem advance_of_not_playing {p : Playback} (hs : p.state ≠ .playing) (elapsed : Span) :
    p.advance elapsed = p.advanceCelebration elapsed := by
  have hstate : (p.advanceCelebration elapsed).1.state ≠ .playing := by
    obtain ⟨left, view, h⟩ := p.advanceCelebration_eq elapsed
    rw [h]
    exact hs
  rw [advance, Change.andThen_eq, if_neg hstate, List.append_nil]

/-- Where nothing is celebrated, there is no celebration to go on with. -/
theorem advanceCelebration_of_off {p : Playback} (off : p.celebrationLeft = none)
    (elapsed : Span) : p.advanceCelebration elapsed = (p, []) := by
  rw [advanceCelebration, off]

/-- An advance goes through the time since the latest record and the time that
goes by. -/
theorem advance_of_playing {p : Playback} (playing : p.state = .playing)
    (off : p.celebrationLeft = none) (elapsed : Span) :
    p.advance elapsed = elapseAll (p.remaining + 1) (p.waiting (p.waited.add elapsed)) := by
  rw [advance, advanceCelebration_of_off off, Change.andThen_eq]
  exact if_pos playing

/-- With a record for every delay that is due, an advance applies so many. -/
theorem advance_of_le {p : Playback} {elapsed : Span} {due rest : Nat}
    (playing : p.state = .playing) (off : p.celebrationLeft = none)
    (hrest : rest < p.delay.nanos)
    (htime : p.waited.nanos + elapsed.nanos = due * p.delay.nanos + rest)
    (hle : due ≤ p.remaining) : p.advance elapsed = applyMany due (p.waiting ⟨rest⟩) := by
  have htotal : (p.waiting (p.waited.add elapsed)).waited.nanos = due * p.delay.nanos + rest :=
    htime
  rw [advance_of_playing playing off]
  exact elapseAll_of_le playing hrest htotal hle (Nat.le_succ_of_le hle)

/-- With more delays due than records left, an advance ends the playback. -/
theorem advance_of_gt {p : Playback} {elapsed : Span} (playing : p.state = .playing)
    (off : p.celebrationLeft = none)
    (hover : (p.remaining + 1) * p.delay.nanos ≤ p.waited.nanos + elapsed.nanos) :
    p.advance elapsed = (applyMany p.remaining p).andThen finish := by
  have hall := elapseAll_of_gt (p := p.waiting (p.waited.add elapsed)) playing rfl hover
    (Nat.lt_succ_self _)
  rw [advance_of_playing playing off, ← remaining_waiting p (p.waited.add elapsed), hall,
    applyMany_waiting, Change.andThen_eq, finish_waiting]
  rfl

/-- Whether a delay is over. -/
def IsDue (p : Playback) : Prop :=
  p.state = .playing ∧ p.delay.nanos ≤ p.waited.nanos

/-- What a delay that is over leads to. -/
def turn (p : Playback) : Change :=
  (p.waiting (p.waited.sub p.delay)).elapse

/-- Going through the delays that are over leads somewhere, with no bound on how
many of them there may be. -/
inductive RunsOut : Playback → Change → Prop where
  /-- None is over. -/
  | rest {p : Playback} (early : ¬p.IsDue) : RunsOut p (p, [])
  /-- One is over, and then perhaps some more. -/
  | turn {p : Playback} {later : Change} (due : p.IsDue) (onward : RunsOut p.turn.1 later) :
      RunsOut p (later.1, p.turn.2 ++ later.2)

/-- It leads to one place only. -/
theorem RunsOut.unique {p : Playback} {c d : Change} (hc : RunsOut p c) (hd : RunsOut p d) :
    c = d := by
  induction hc generalizing d with
  | rest early =>
    cases hd with
    | rest => rfl
    | turn due onward => exact absurd due early
  | turn due onward ih =>
    cases hd with
    | rest early => exact absurd due early
    | turn _ other => rw [ih other]

/-- No delay is over there. -/
theorem RunsOut.not_isDue {p : Playback} {c : Change} (h : RunsOut p c) : ¬c.1.IsDue := by
  induction h with
  | rest early => exact early
  | turn due onward ih => exact ih

/-- More turns than there are records left are enough: each of them applies one
record or is the last. -/
theorem runsOut_elapseAll {count : Nat} {p : Playback} (h : p.remaining < count) :
    RunsOut p (elapseAll count p) := by
  induction count generalizing p with
  | zero => exact absurd h (Nat.not_lt_zero _)
  | succ count ih =>
    by_cases due : p.IsDue
    · have honward : RunsOut p.turn.1 (elapseAll count p.turn.1) := by
        by_cases hcursor : p.cursor < p.length
        · have hturn : p.turn = (p.waiting (p.waited.sub p.delay)).applyNext := if_pos hcursor
          have hremaining := remaining_applyNext hcursor
          rw [hturn, applyNext_waiting]
          refine ih ?_
          rw [remaining_waiting]
          omega
        · have hturn : p.turn = p.finish := if_neg hcursor
          have hstate : p.turn.1.state ≠ .playing := by
            obtain ⟨left, view, hfinish⟩ := finish_eq due.1
            rw [hturn, hfinish]
            exact State.noConfusion
          rw [elapseAll_of_not_playing count hstate]
          exact .rest fun next => hstate next.1
      have hfirst : elapseAll (count + 1) p = p.turn.andThen (elapseAll count) := if_pos due
      rw [hfirst]
      exact .turn due honward
    · have hnone : elapseAll (count + 1) p = (p, []) := if_neg due
      rw [hnone]
      exact .rest due

/-- The loop of an advance: the delays that are over once the time has gone by,
for as long as there are any. -/
theorem advance_eq_runsOut {p : Playback} (playing : p.state = .playing) (elapsed : Span) :
    ∃ c, RunsOut ((p.advanceCelebration elapsed).1.waiting (p.waited.add elapsed)) c ∧
      p.advance elapsed = (c.1, (p.advanceCelebration elapsed).2 ++ c.2) := by
  obtain ⟨left, view, h⟩ := p.advanceCelebration_eq elapsed
  refine ⟨_, runsOut_elapseAll (Nat.lt_succ_self _), ?_⟩
  rw [advance, Change.andThen_eq, h, if_pos playing]
  rfl

end MazeRobot.Playback
