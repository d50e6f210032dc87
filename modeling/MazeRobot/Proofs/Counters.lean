import MazeRobot.Proofs.Visits
import MazeRobot.Robot.Primitives

/-!
# Counters do not wrap around

Steps, visits and ticks are counted in words of 32 bits, and budgets may be as
large as such a word can be. No count wraps around all the same. Steps and ticks
stay within their budgets. A cell is visited by one move in two at most, since no
move leads to the cell that it comes from, so that its count stays below half of
what a word can hold. So every counter tells the true number.
-/

namespace MazeRobot

namespace Robot

/-- Every call is a sequence of elementary actions. -/
theorem acts_perform (r : Robot) (p : Primitive) : Acts r (r.perform p).1 := by
  cases p with
  | moveForward count => exact acts_answer r (.move count)
  | turn t => exact acts_turn r t
  | turnNamed word => exact acts_answer r (.turn word)
  | relativeNamed word => exact acts_relativeNamed r word
  | neighbourNamed word => exact acts_neighbourNamed r word
  | ask q => exact .refl
  | log text => exact acts_note r _
  | note message => exact acts_note r message
  | finish => exact .single (.finish r)

theorem acts_performAll (calls : List Primitive) (r : Robot) : Acts r (performAll calls r).1 := by
  induction calls generalizing r with
  | nil => exact .refl
  | cons p rest ih => exact (acts_perform r p).trans (ih _)

/-- The greatest count that a cell can have. -/
def visitLimit : Nat := 2147483648

/-- The counters of a robot tell the true numbers, and they can go on. -/
structure Unwrapped (start : Coord) (maxSteps : UInt32) (r : Robot) : Prop where
  /-- The steps are the moves and the turns. -/
  steps : r.steps.toNat = r.trace.countOf .move + r.trace.countOf .turn
  /-- They keep to the budget. -/
  steps_le : r.steps ≤ maxSteps
  /-- A cell counts as often as the walk came to it. -/
  visits : ∀ c, (r.visits.count c).toNat = (r.trace.walkFrom start).count c
  /-- It was entered by one move in two at most. -/
  visits_le : ∀ c, (r.visits.count c).toNat ≤ r.trace.countOf .move / 2 + 1
  /-- So it was entered no more often than this. -/
  visits_le_limit : ∀ c, (r.visits.count c).toNat ≤ visitLimit
  /-- As long as there is a step left, it can be counted. -/
  next_step : r.exhausted = false → (r.steps + 1).toNat = r.steps.toNat + 1
  /-- One more visit of any cell can be counted at any time. -/
  next_visit : ∀ c, (r.visits.count c + 1).toNat = (r.visits.count c).toNat + 1

variable {start : Coord} {r : Robot}

/-- One cell takes up half of the walk and one visit more at most. -/
theorem Recalls.count_le (h : Recalls start r) (counted : Counted r) (c : Coord) :
    (r.visits.count c).toNat ≤ r.trace.countOf .move / 2 + 1 := by
  have hhalf := Visits.two_mul_count_le h.moving c
  rw [Trace.length_walkFrom, ← (h.remembers counted).count] at hhalf
  omega

/-- There are no more moves than a word can count. -/
theorem Counted.countOf_move_lt (h : Counted r) : r.trace.countOf .move < 4294967296 := by
  have hsteps := h.steps
  have hword : r.steps.toNat < 4294967296 := r.steps.toNat_lt
  rw [Trace.countP_isStep] at hsteps
  omega

/-- A robot that keeps accounts of its steps and of its walk has true counters. -/
theorem Recalls.unwrapped (h : Recalls start r) (counted : Counted r) :
    Unwrapped start r.maxSteps r := by
  have hcount := h.count_le counted
  have hmoves := counted.countOf_move_lt
  have hlimit (c : Coord) : (r.visits.count c).toNat ≤ visitLimit := by
    have hc := hcount c
    unfold visitLimit
    omega
  refine ⟨?_, UInt32.le_iff_toNat_le.mpr counted.within, (h.remembers counted).count, hcount,
    hlimit, fun left => ?_, fun c => ?_⟩
  · rw [counted.steps, Trace.countP_isStep]
  · exact toNat_add_one ((exhausted_eq_false_iff r).mp left) r.maxSteps.toNat_lt
  · have hword : visitLimit + 1 < UInt32.size := by decide
    exact toNat_add_one (Nat.lt_succ_of_le (hlimit c)) hword

/-- Whatever happens to a fresh robot, its counters tell the true numbers. -/
theorem unwrapped_of_acts {grid : Grid} {goal : Coord} {maxSteps : UInt32}
    (h : Acts (init grid start goal maxSteps) r) : Unwrapped start maxSteps r := by
  have hrecalls : Recalls start r := h.keep Action.recalls (recalls_init _ _ _ _)
  have hcounted : Counted r := h.keep Action.counted (counted_init _ _ _ _)
  have hmax : r.maxSteps = maxSteps := h.task.2.2
  rw [← hmax]
  exact hrecalls.unwrapped hcounted

end Robot

namespace Engine

/-- No counter of a run wraps around, whatever the budgets. After any calls to a
robot its steps and its visits are counted truly: the steps keep to the budget, and
a cell has at most one visit for two moves and one more. The ticks that a report
tells are the ticks that were begun, and they keep to their budget. -/
theorem performAll_unwrapped (config : EngineConfig) {grid : Grid} {start : Coord}
    (hs : grid.findStart = .ok start) (goal : Coord) :
    let first := Robot.init grid start goal config.maxSteps
    (∀ calls, (Robot.performAll calls first).1.Unwrapped start config.maxSteps) ∧
      ∀ code, ∃ report, execute config grid goal code = .ok report ∧
        report.ticks.toNat = Run.updates (scenes config code first) ∧
        report.ticks ≤ config.maxTicks := by
  intro first
  refine ⟨fun calls => Robot.unwrapped_of_acts (Robot.acts_performAll calls first), fun code => ?_⟩
  have hticks := Run.ticks_attempt (reading config code) config.maxTicks first
  have hle := Run.updates_scenesOf_le (reading config code) config.maxTicks first
  refine ⟨_, execute_of_findStart config hs goal code, hticks, ?_⟩
  exact UInt32.le_iff_toNat_le.mpr (hticks.trans_le hle)

/-- A robot that goes back and forth with the largest budget there is comes to its
start as often as it can, and a script that fails at its first tick is told to have
begun the one tick of its budget. -/
theorem performAll_unwrapped_shuttle :
    let first := Robot.init .crossing ⟨0, 1⟩ ⟨2, 2⟩ 4294967295
    let last :=
      (Robot.performAll [.moveForward 1, .turn .left, .turn .left, .moveForward 1] first).1
    Grid.crossing.findStart = .ok ⟨0, 1⟩ ∧ last.Unwrapped ⟨0, 1⟩ 4294967295 ∧
      last.trace.countOf .move = 2 ∧ (last.visits.count ⟨0, 1⟩).toNat = 2 / 2 + 1 ∧
      ∃ report, execute { maxSteps := 4294967295, maxTicks := 1 } .crossing ⟨2, 2⟩
          "fn update() \x7b missing(); \x7d" = .ok report ∧ report.ticks.toNat = 1 := by
  intro first last
  have hstart : Grid.crossing.findStart = .ok ⟨0, 1⟩ := rfl
  obtain ⟨hcalls, hcode⟩ :=
    performAll_unwrapped { maxSteps := 4294967295, maxTicks := 1 } hstart ⟨2, 2⟩
  obtain ⟨report, hreport, hticks, -⟩ := hcode "fn update() \x7b missing(); \x7d"
  have hone : Run.updates (scenes { maxSteps := 4294967295, maxTicks := 1 }
      "fn update() \x7b missing(); \x7d" first) = 1 := by decide +kernel
  exact ⟨hstart, hcalls _, by decide, by decide, report, hreport, hticks.trans hone⟩

end Engine

end MazeRobot
