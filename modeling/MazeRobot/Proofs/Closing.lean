import MazeRobot.Proofs.Action
import MazeRobot.Proofs.Grid

/-!
# Closing lines

Every run closes with a line at the place where the robot ended, and the last
line tells how it ended. It says that the goal was reached only if an orderly
run ended on the goal, and then it says so. A run that gives up for want of
ticks can stand on the goal in one case alone: there was no tick to use up,
and the opening had led there. Then the result is a success, but the closing
line is not.
-/

namespace MazeRobot

namespace Run

/-- The last line of a run. -/
def Ended.lastLine (e : Ended) : String :=
  match e.outcome with
  | .parseError message => "❌ Parse error: " ++ message
  | .runtimeError message => "❌ Error: " ++ message
  | .stepLimitExceeded _ => missedLine
  | .completed _ => if e.succeeded then reachedLine else missedLine

/-- The last record is the last line, where the robot ended. -/
theorem last?_closed (e : Ended) :
    e.closed.trace.last? = some ⟨.log, e.robot.position, e.robot.heading, e.lastLine⟩ := by
  obtain ⟨robot, outcome, ticks⟩ := e
  cases outcome <;> exact Trace.last?_push _ _

/-- Two texts that begin with different characters differ. -/
theorem ne_reachedLine {line : String} (h : line.toList.head? ≠ reachedLine.toList.head?) :
    line ≠ reachedLine := fun same => h (congrArg (·.toList.head?) same)

/-- The last line is that of success after an orderly run onto the goal, and
never else. -/
theorem lastLine_eq_reachedLine_iff (e : Ended) :
    e.lastLine = reachedLine ↔
      (∃ via, e.outcome = .completed via) ∧ e.robot.atGoal = true := by
  have hmissed : missedLine ≠ reachedLine := ne_reachedLine (by decide)
  unfold Ended.lastLine
  split
  · next message ho =>
    have hne : "❌ Parse error: " ++ message ≠ reachedLine :=
      ne_reachedLine (by rw [String.toList_append]; simp [reachedLine])
    simp [hne, ho]
  · next message ho =>
    have hne : "❌ Error: " ++ message ≠ reachedLine :=
      ne_reachedLine (by rw [String.toList_append]; simp [reachedLine])
    simp [hne, ho]
  · next count ho => simp [hmissed, ho]
  · next via ho =>
    have hs : e.succeeded = e.robot.atGoal := by
      rw [Ended.succeeded, ho]
      rfl
    rw [hs]
    cases e.robot.atGoal with
    | false => simp [hmissed]
    | true => simp [ho]

/-- A run gives up on the goal only before the first tick. -/
theorem ticking_gaveUp {σ : Type} {update : σ → Dialogue (Except Stop σ)} {remaining : Nat}
    {count : UInt32} {memory : σ} {r : Robot} {n : UInt32}
    (ho : (ticking update remaining count memory r).outcome = .stepLimitExceeded n)
    (hg : (ticking update remaining count memory r).robot.atGoal = true) :
    remaining = 0 ∧ r.done = false ∧ r.atGoal = true := by
  fun_induction ticking update remaining count memory r with
  | case1 => cases ho
  | case2 count memory r hd => exact ⟨rfl, eq_false_of_ne_true hd, hg⟩
  | case3 => cases ho
  | case4 remaining count memory r hd s outcome hp =>
    obtain ⟨message, hm⟩ := isError_of_phase_error hp
    rw [hm] at ho
    cases ho
  | case5 => cases ho
  | case6 remaining count memory r hd s after hp hs ih =>
    -- After a tick the robot is off the goal, so it cannot give up there at once.
    exact absurd (ih ho hg).2.2 hs

/-- The opening leads to the goal and leaves a behaviour without any tick for
its update. -/
def StuckOnGoal {σ : Type} (b : Behaviour σ) (maxTicks : UInt32) (r : Robot) : Prop :=
  maxTicks = 0 ∧ b.update.isSome = true ∧
    ∃ s memory, opening b r = (s, .ok memory) ∧ s.done = false ∧ s.atGoal = true

/-- A behaviour gives up on the goal exactly if it is stuck there. -/
theorem drive_gaveUp_iff {σ : Type} (b : Behaviour σ) (maxTicks : UInt32) (r : Robot) :
    ((∃ n, (drive b maxTicks r).outcome = .stepLimitExceeded n) ∧
        (drive b maxTicks r).robot.atGoal = true) ↔ StuckOnGoal b maxTicks r := by
  unfold drive
  rcases hp : opening b r with ⟨s, result⟩
  cases result with
  | error outcome =>
    obtain ⟨message, rfl⟩ := isError_of_opening_error hp
    simp [StuckOnGoal, hp]
  | ok memory =>
    cases hu : b.update with
    | none => simp [StuckOnGoal, ticks, hu]
    | some update =>
      constructor
      · rintro ⟨⟨n, ho⟩, hg⟩
        simp only [ticks, hu] at ho hg
        obtain ⟨hz, hd, hs⟩ := ticking_gaveUp ho hg
        exact ⟨UInt32.toNat_inj.mp hz, by rw [hu]; rfl, s, memory, hp, hd, hs⟩
      · rintro ⟨rfl, _, t, kept, hp', hd, hs⟩
        cases hp.symm.trans hp'
        simp [ticks, hu, ticking, hd, hs]

end Run

open Run

/-- The closing line and the outcome of a report agree with its result. -/
structure Report.Agrees (report : Report) : Prop where
  /-- The last line is that of success exactly if the result is one. -/
  line : report.trace.last?.map Record.message = some reachedLine ↔
    report.result.completed = true
  /-- No run that gives up is a success. -/
  gaveUp : ∀ n, report.outcome = .stepLimitExceeded n → report.result.completed = false

/-- A run that gives up on the goal is reported as a success with the line of a
failure. -/
theorem Run.report_of_gaveUp {e : Ended} {n : UInt32} (ho : e.outcome = .stepLimitExceeded n)
    (hg : e.robot.atGoal = true) (start : Coord) :
    (e.report start).outcome = .stepLimitExceeded n ∧
      (e.report start).result.completed = true ∧
      (e.report start).trace.last?.map Record.message = some missedLine ∧
      ¬(e.report start).Agrees := by
  have hcompleted : (e.report start).result.completed = true := by
    rw [Ended.report, Ended.succeeded, ho, hg]
    rfl
  refine ⟨ho, hcompleted, ?_, fun h => ?_⟩
  · rw [Ended.report, last?_closed, Ended.lastLine, ho]
    rfl
  · have hfalse := h.gaveUp n ho
    rw [hcompleted] at hfalse
    cases hfalse

/-- A report agrees with its own closing line unless the run gave up on the
goal. -/
theorem Run.report_agrees_iff (e : Ended) (start : Coord) :
    (e.report start).Agrees ↔
      ¬((∃ n, e.outcome = .stepLimitExceeded n) ∧ e.robot.atGoal = true) := by
  constructor
  · rintro h ⟨⟨n, ho⟩, hg⟩
    exact (report_of_gaveUp ho hg start).2.2.2 h
  · intro h
    have hlast : (e.report start).trace.last?.map Record.message = some e.lastLine := by
      rw [Ended.report, last?_closed]
      rfl
    have hcompleted : (e.report start).result.completed =
        (!e.outcome.isError && e.robot.atGoal) := rfl
    -- Giving up is the one orderly outcome whose line is fixed before the place is known.
    have hoff : ∀ n, e.outcome = .stepLimitExceeded n → e.robot.atGoal = false :=
      fun n ho => eq_false_of_ne_true fun hg => h ⟨⟨n, ho⟩, hg⟩
    refine ⟨?_, fun n ho => ?_⟩
    · rw [hlast, Option.some.injEq, lastLine_eq_reachedLine_iff, hcompleted]
      cases ho : e.outcome with
      | completed via => simp [Outcome.isError]
      | stepLimitExceeded n => simp [hoff n ho]
      | parseError message => simp [Outcome.isError]
      | runtimeError message => simp [Outcome.isError]
    · rw [hcompleted, hoff n ho, Bool.and_false]

section Reading

variable {σ : Type} (reading : Except String (Behaviour σ))

/-- What a text was read as gives up on the goal exactly if it is a behaviour that is
stuck there. -/
theorem Run.attempt_gaveUp_iff (maxTicks : UInt32) (r : Robot) :
    ((∃ n, (attempt reading maxTicks r).outcome = .stepLimitExceeded n) ∧
        (attempt reading maxTicks r).robot.atGoal = true) ↔
      ∃ b, reading = .ok b ∧ Run.StuckOnGoal b maxTicks r := by
  cases reading with
  | error message => simp [attempt]
  | ok b => simp [attempt, drive_gaveUp_iff]

/-- Whatever a text was read as, the closing line and the outcome agree with the result,
except for one behaviour: one that reaches the goal before its ticks and has none. -/
theorem Run.execute_agrees (config : EngineConfig) {grid : Grid} {start : Coord}
    (hs : grid.findStart = .ok start) (goal : Coord) :
    ∃ report, Run.execute config reading grid goal = .ok report ∧
      (report.Agrees ↔ ¬∃ b, reading = .ok b ∧
        Run.StuckOnGoal b config.maxTicks (.init grid start goal config.maxSteps)) := by
  refine ⟨_, execute_of_findStart reading config hs goal, ?_⟩
  rw [report_agrees_iff, attempt_gaveUp_iff]

end Reading

namespace Engine

/-- The text is a script that is stuck on the goal: its opening leads there
and no tick is allowed. -/
def StuckOnGoal (config : EngineConfig) (code : String) (r : Robot) : Prop :=
  ∃ b, reading config code = .ok b ∧ Run.StuckOnGoal b config.maxTicks r

/-- The closing line and the outcome agree with the result of every run,
except for one: a script that reached the goal before its ticks and has none. -/
theorem execute_agrees_iff (config : EngineConfig) {grid : Grid} {start : Coord}
    (hs : grid.findStart = .ok start) (goal : Coord) (code : String) :
    ∃ report, execute config grid goal code = .ok report ∧
      (report.Agrees ↔ ¬StuckOnGoal config code (Robot.init grid start goal config.maxSteps)) :=
  Run.execute_agrees (reading config code) config hs goal

/-- With ticks to use up, a run that begins on the goal agrees with its
closing line. -/
theorem execute_agrees_crossing :
    Grid.crossing.findStart = .ok ⟨0, 1⟩ ∧
      ∃ report, execute {} .crossing ⟨0, 1⟩ "fn update() \x7b\x7d" = .ok report ∧
        (report.Agrees ↔ ¬StuckOnGoal {} "fn update() \x7b\x7d"
          (.init .crossing ⟨0, 1⟩ ⟨0, 1⟩ ({} : EngineConfig).maxSteps)) :=
  ⟨rfl, execute_agrees_iff {} rfl ⟨0, 1⟩ "fn update() \x7b\x7d"⟩

/-- Without a tick, it gives up as a success. -/
theorem execute_disagrees_crossing :
    ∃ report, execute { maxTicks := 0 } .crossing ⟨0, 1⟩ "fn update() \x7b\x7d" = .ok report ∧
      report.outcome = .stepLimitExceeded 0 ∧ report.result.completed = true ∧
      report.trace.last?.map Record.message = some missedLine ∧ ¬report.Agrees := by
  have ho : (run { maxTicks := 0 } "fn update() \x7b\x7d" (.init .crossing ⟨0, 1⟩ ⟨0, 1⟩
      ({ maxTicks := 0 } : EngineConfig).maxSteps)).outcome = .stepLimitExceeded 0 := by
    decide +kernel
  have hg : (run { maxTicks := 0 } "fn update() \x7b\x7d" (.init .crossing ⟨0, 1⟩ ⟨0, 1⟩
      ({ maxTicks := 0 } : EngineConfig).maxSteps)).robot.atGoal = true := by
    decide +kernel
  exact ⟨_, execute_of_findStart _ rfl _ _, report_of_gaveUp ho hg _⟩

end Engine

end MazeRobot
