import MazeRobot.Proofs.Closing
import MazeRobot.Proofs.Scene

/-!
# Reports are accounted for

All that a report tells can be recomputed from its own trace. The counter of
steps grows with the records that are steps and with nothing else and stays
within its budget, the ticks stay within theirs, and neither of them wraps
around. The last record stands where the robot ended. A text that is no script
leaves one line and nothing else.
-/

namespace MazeRobot

namespace Robot

/-- The budget is left exactly if the steps have not reached it. -/
theorem exhausted_eq_false_iff (r : Robot) :
    r.exhausted = false ↔ r.steps.toNat < r.maxSteps.toNat := by
  rw [exhausted, decide_eq_false_iff_not, UInt32.le_iff_toNat_le, Nat.not_le]

/-- The counter of steps agrees with the trace and keeps to the budget. -/
structure Counted (r : Robot) : Prop where
  /-- There is one step for every record that is a step. -/
  steps : r.steps.toNat = r.trace.toList.countP Record.isStep
  /-- The budget was never exceeded. -/
  within : r.steps.toNat ≤ r.maxSteps.toNat

/-- One more step within the budget, with one more record that is a step. -/
theorem Counted.succ {r s : Robot} (h : Counted r) (left : r.exhausted = false) {record : Record}
    (hstep : record.isStep = true) (hsteps : s.steps = r.steps + 1)
    (hmax : s.maxSteps = r.maxSteps) (htrace : s.trace.toList = r.trace.toList ++ [record]) :
    Counted s := by
  have hlt := (exhausted_eq_false_iff r).mp left
  have hsucc := toNat_add_one hlt r.maxSteps.toNat_lt
  constructor
  · rw [hsteps, hsucc, htrace, List.countP_append, ← h.steps, List.countP_singleton, if_pos hstep]
  · rw [hsteps, hsucc, hmax]
    exact hlt

/-- Every elementary action keeps the accounts. -/
theorem Action.counted {r s : Robot} (ha : Action r s) (h : Counted r) : Counted s := by
  cases ha with
  | note message =>
    refine ⟨?_, h.within⟩
    rw [toList_note, List.countP_append, ← h.steps]
    rfl
  | advance left free => exact h.succ left rfl rfl rfl (toList_advance r)
  | rotate left t => exact h.succ left rfl rfl rfl (toList_rotate r t)
  | finish => exact ⟨h.steps, h.within⟩
  | refuse used => exact ⟨h.steps, h.within⟩

theorem counted_init (g : Grid) (start goal : Coord) (maxSteps : UInt32) :
    Counted (init g start goal maxSteps) where
  steps := rfl
  within := Nat.zero_le _

end Robot

namespace Trace

/-- Records are steps by being moves or turns. -/
theorem countP_isStep (t : Trace) :
    t.toList.countP Record.isStep = t.countOf .move + t.countOf .turn := by
  unfold countOf
  induction t.toList with
  | nil => rfl
  | cons record rest ih =>
    obtain ⟨kind, position, orientation, message⟩ := record
    simp only [List.countP_cons, ih, Record.isStep]
    cases kind <;> simp <;> omega

end Trace

namespace Run

theorem ticking_ne_parseError {σ : Type} (update : σ → Dialogue (Except Stop σ))
    (remaining : Nat) (count : UInt32) (memory : σ) (r : Robot) (message : String) :
    (ticking update remaining count memory r).outcome ≠ .parseError message := by
  fun_induction ticking update remaining count memory r with
  | case1 => exact Outcome.noConfusion
  | case2 => exact Outcome.noConfusion
  | case3 => exact Outcome.noConfusion
  | case4 remaining count memory r hd s outcome hp =>
    obtain ⟨_, rfl⟩ := isError_of_phase_error hp
    exact Outcome.noConfusion
  | case5 => exact Outcome.noConfusion
  | case6 remaining count memory r hd s after hp hg ih => exact ih

/-- What ends the run of a script is no fault of its text. -/
theorem drive_ne_parseError {σ : Type} (b : Behaviour σ) (maxTicks : UInt32) (r : Robot)
    (message : String) : (drive b maxTicks r).outcome ≠ .parseError message := by
  unfold drive
  split
  · next ho =>
    obtain ⟨_, rfl⟩ := isError_of_opening_error ho
    exact Outcome.noConfusion
  · unfold ticks
    split
    · exact Outcome.noConfusion
    · exact ticking_ne_parseError _ _ _ _ _ _

end Run

/-- All that a report tells can be recomputed from its trace, the limits and
the goal. -/
structure Report.Balanced (report : Report) (config : EngineConfig) (goal : Coord) : Prop where
  /-- The steps are those of the trace. -/
  steps : report.result.steps = report.trace.stepCount
  /-- The steps of the trace are its moves and turns; their number does not
  wrap around. -/
  stepCount : report.trace.stepCount.toNat =
    report.trace.countOf .move + report.trace.countOf .turn
  /-- The budget of steps is kept. -/
  steps_le : report.result.steps ≤ config.maxSteps
  /-- The result is a success exactly if nothing went wrong and the last record
  stands on the goal. -/
  completed : report.result.completed = true ↔
    (∀ message, report.outcome ≠ .parseError message ∧ report.outcome ≠ .runtimeError message) ∧
      report.trace.last?.map Record.position = some goal
  /-- The budget of ticks is kept. -/
  ticks_le : report.ticks ≤ config.maxTicks
  /-- A text that is no script leaves one line at the start and nothing else. -/
  parseError : ∀ message, report.outcome = .parseError message →
    (∃ line, report.trace.toList = [⟨.log, report.start, .east, line⟩]) ∧
      report.result = ⟨false, 0⟩ ∧ report.ticks = 0

namespace Run

/-- The closing lines take no steps. -/
theorem steps_closed (e : Ended) : e.closed.steps = e.robot.steps := by
  obtain ⟨robot, outcome, ticks⟩ := e
  cases outcome <;> rfl

/-- The closing lines leave the trace and the steps in agreement. -/
theorem stepCount_closed {e : Ended} (h : Robot.Counted e.closed) :
    e.closed.trace.stepCount = e.robot.steps := by
  rw [Trace.stepCount, ← h.steps, UInt32.ofNat_toNat, steps_closed]

/-- A success is an orderly end on the goal. -/
theorem succeeded_iff (e : Ended) :
    e.succeeded = true ↔
      (∀ message, e.outcome ≠ .parseError message ∧ e.outcome ≠ .runtimeError message) ∧
        e.robot.position = e.robot.goal := by
  rw [Ended.succeeded, Bool.and_eq_true, Robot.atGoal, beq_iff_eq]
  cases e.outcome <;> simp [Outcome.isError]

/-- A run that began with nothing done, kept to its ticks and did nothing
without a script has a report that is accounted for. -/
theorem report_balanced {e : Ended} {config : EngineConfig} {g : Grid} {start goal : Coord}
    (hacts : Robot.Acts (.init g start goal config.maxSteps) e.robot)
    (hticks : e.ticks.toNat ≤ config.maxTicks.toNat)
    (hparse : ∀ message, e.outcome = .parseError message →
      e = ⟨.init g start goal config.maxSteps, .parseError message, 0⟩) :
    (e.report start).Balanced config goal := by
  have hclosed : Robot.Acts (.init g start goal config.maxSteps) e.closed :=
    hacts.trans (acts_closed e)
  have hcounted := hclosed.keep Robot.Action.counted
    (Robot.counted_init g start goal config.maxSteps)
  have hcount := stepCount_closed hcounted
  -- Without a script no steps are told, and none were made.
  have hsteps : e.steps = e.robot.steps := by
    unfold Ended.steps
    split
    · next message ho => rw [hparse message ho]; rfl
    · rfl
  have hgoal : e.robot.goal = goal := hacts.task.2.1
  have hmax : e.closed.maxSteps = config.maxSteps := hclosed.task.2.2
  constructor
  · exact hsteps.trans hcount.symm
  · rw [Ended.report, hcount, ← steps_closed, hcounted.steps, Trace.countP_isStep]
  · rw [Ended.report, hsteps, ← steps_closed, UInt32.le_iff_toNat_le, ← hmax]
    exact hcounted.within
  · rw [Ended.report, last?_closed, succeeded_iff, hgoal, Option.map_some, Option.some.injEq]
  · exact UInt32.le_iff_toNat_le.mpr hticks
  · intro message ho
    rw [hparse message ho]
    exact ⟨⟨_, rfl⟩, rfl, rfl⟩

section Reading

variable {σ : Type} (reading : Except String (Behaviour σ))

/-- A run of what is no script did not begin. -/
theorem attempt_of_parseError {maxTicks : UInt32} {r : Robot} {message : String}
    (h : (attempt reading maxTicks r).outcome = .parseError message) :
    attempt reading maxTicks r = ⟨r, .parseError message, 0⟩ := by
  cases reading with
  | error message =>
    obtain rfl := Outcome.parseError.inj h
    rfl
  | ok b => exact absurd h (drive_ne_parseError b maxTicks r message)

/-- Whatever a text was read as, the report can be recomputed from its trace. -/
theorem execute_accounted (config : EngineConfig) {grid : Grid} {start : Coord}
    (hs : grid.findStart = .ok start) (goal : Coord) :
    ∃ report, execute config reading grid goal = .ok report ∧ report.start = start ∧
      report.Balanced config goal := by
  have hticks := ticks_attempt reading config.maxTicks (.init grid start goal config.maxSteps)
  have hle := updates_scenesOf_le reading config.maxTicks (.init grid start goal config.maxSteps)
  exact ⟨_, execute_of_findStart reading config hs goal, rfl,
    report_balanced (acts_attempt _ _ _) (by omega) fun _ => attempt_of_parseError reading⟩

end Reading

end Run

namespace Engine

/-- The report on every run of every text can be recomputed from its trace. -/
theorem execute_balanced (config : EngineConfig) {grid : Grid} {start : Coord}
    (hs : grid.findStart = .ok start) (goal : Coord) (code : String) :
    ∃ report, execute config grid goal code = .ok report ∧ report.start = start ∧
      report.Balanced config goal :=
  Run.execute_accounted (reading config code) config hs goal

/-- A turn, a blocked move and a text that fails are accounted for. -/
theorem execute_balanced_crossing :
    Grid.crossing.findStart = .ok ⟨0, 1⟩ ∧
      ∃ report, execute { maxSteps := 7 } .crossing ⟨2, 2⟩
          "fn update() \x7b turn(\"left\"); move(5); missing(); \x7d" = .ok report ∧
        report.start = ⟨0, 1⟩ ∧ report.Balanced { maxSteps := 7 } ⟨2, 2⟩ :=
  ⟨rfl, execute_balanced _ rfl _ _⟩

end Engine

end MazeRobot
