import MazeRobot.Engine
import Mathlib.Logic.Relation

/-!
# Elementary actions

All that ever happens to a robot is made of five elementary actions: a line in
the trace, a step ahead, a quarter turn, the end of the run declared, and a
refused step. The answers to all calls are sequences of them, and so are
dialogues, phases, whole runs and the closing lines. What holds of a robot
before and after each elementary action therefore holds of every run of every
script.
-/

namespace MazeRobot

/-- A counter that has not reached its bound goes on by one. -/
theorem toNat_add_one {n : UInt32} {m : Nat} (h : n.toNat < m) (hm : m < UInt32.size) :
    (n + 1).toNat = n.toNat + 1 := by
  rw [UInt32.toNat_add, UInt32.toNat_one]
  exact Nat.mod_eq_of_lt (Nat.lt_of_le_of_lt h hm)

namespace Robot

/-- One elementary action. -/
inductive Action : Robot → Robot → Prop where
  /-- A line is written. -/
  | note (r : Robot) (message : String) : Action r (r.note message)
  /-- A step ahead, within the budget and onto a free cell. -/
  | advance {r : Robot} (left : r.exhausted = false)
      (free : r.grid.isPassable (r.project .front) = true) : Action r r.advance
  /-- A quarter turn within the budget. -/
  | rotate {r : Robot} (left : r.exhausted = false) (t : Turn) : Action r (r.rotate t)
  /-- The run is declared over. -/
  | finish (r : Robot) : Action r r.finish
  /-- A step is refused, as the budget is used up. -/
  | refuse {r : Robot} (used : r.exhausted = true) : Action r r.refuse

/-- Any number of elementary actions. -/
abbrev Acts : Robot → Robot → Prop := Relation.ReflTransGen Action

/-- What every elementary action keeps, any number of them keep. -/
theorem Acts.keep {P : Robot → Prop} (hstep : ∀ {r s : Robot}, Action r s → P r → P s)
    {r s : Robot} (h : Acts r s) (hr : P r) : P s := by
  induction h with
  | refl => exact hr
  | tail _ ha ih => exact hstep ha ih

/-- The maze, the goal and the budget are never changed. -/
theorem Action.task {r s : Robot} (h : Action r s) :
    s.grid = r.grid ∧ s.goal = r.goal ∧ s.maxSteps = r.maxSteps := by
  cases h <;> exact ⟨rfl, rfl, rfl⟩

theorem Acts.task {r s : Robot} (h : Acts r s) :
    s.grid = r.grid ∧ s.goal = r.goal ∧ s.maxSteps = r.maxSteps := by
  induction h with
  | refl => exact ⟨rfl, rfl, rfl⟩
  | tail _ ha ih =>
    obtain ⟨hg, hgoal, hm⟩ := ha.task
    exact ⟨hg.trans ih.1, hgoal.trans ih.2.1, hm.trans ih.2.2⟩

theorem acts_note (r : Robot) (message : String) : Acts r (r.note message) :=
  .single (.note r message)

/-- A move of several cells is a sequence of steps and at most one refusal or
warning. -/
theorem acts_moveTimes (count : Nat) (r : Robot) : Acts r (moveTimes count r).1 := by
  induction count generalizing r with
  | zero => exact .refl
  | succ count ih =>
    rw [moveTimes]
    split
    · next used => exact .single (.refuse used)
    · next left =>
      split
      · next free => exact .head (.advance (eq_false_of_ne_true left) free) (ih _)
      · exact acts_note _ _

theorem acts_turn (r : Robot) (t : Turn) : Acts r (r.turn t).1 := by
  rw [turn]
  split
  · next used => exact .single (.refuse used)
  · next left => exact .single (.rotate (eq_false_of_ne_true left) t)

theorem acts_relativeNamed (r : Robot) (word : String) : Acts r (r.relativeNamed word).1 := by
  unfold relativeNamed
  split
  · exact .refl
  · exact acts_note _ _

theorem acts_neighbourNamed (r : Robot) (word : String) : Acts r (r.neighbourNamed word).1 := by
  unfold neighbourNamed
  split
  · exact .refl
  · exact acts_note _ _

/-- Looking somewhere writes a warning at most. -/
theorem acts_look {α : Type} (r : Robot) (word : String) (preset : α)
    (read : Robot → Relative → α) : Acts r (r.look word preset read).1 := by
  have h := acts_relativeNamed r word
  unfold look
  split <;> next hs => rwa [hs] at h

/-- Every answer is a sequence of elementary actions. -/
theorem acts_answer (r : Robot) (c : Call) : Acts r (r.answer c).1 := by
  cases c with
  | move count =>
    rw [answer, moveForward]
    split
    · exact acts_note _ _
    · exact acts_moveTimes _ _
  | turn word =>
    rw [answer, turnNamed]
    split
    · exact acts_turn _ _
    · exact acts_note _ _
  | isEmpty word =>
    cases word with
    | none => exact .refl
    | some word =>
      have h := acts_neighbourNamed r word
      rw [answer]
      split <;> next hs => rwa [hs] at h
  | isGoal word =>
    cases word with
    | none => exact .refl
    | some word => exact acts_look _ _ _ _
  | hasVisited word =>
    cases word with
    | none => exact .refl
    | some word => exact acts_look _ _ _ _
  | visitCount word =>
    cases word with
    | none => exact .refl
    | some word => exact acts_look _ _ _ _
  | visitedCells => exact .refl
  | position => exact .refl
  | goal => exact .refl
  | log text => exact acts_note _ _
  | finish => exact .single (.finish r)

end Robot

open Robot

/-- Every dialogue is a sequence of elementary actions. -/
theorem Dialogue.acts_play {α : Type} (d : Dialogue α) (r : Robot) : Acts r (d.play r).1 :=
  d.play_induction (Acts r) (fun s c h => h.trans (acts_answer s c)) r .refl

namespace Run

/-- A phase leaves the robot that its dialogue leaves. -/
theorem phase_robot {α : Type} (d : Dialogue (Except Stop α)) (r : Robot) :
    (phase d r).1 = (d.play r).1 := by
  unfold phase
  split
  next s result hp =>
  rw [hp]
  split
  · rfl
  · split <;> rfl

/-- A phase that ends the run: a step was refused, which is then the message
whatever the dialogue made of it, or the dialogue failed. -/
theorem phase_error {α : Type} {d : Dialogue (Except Stop α)} {r s : Robot} {outcome : Outcome}
    (h : phase d r = (s, .error outcome)) :
    (s.refused = true ∧ outcome = .runtimeError (ceilingMessage s)) ∨
      (s.refused = false ∧ ∃ stop, (d.play r).2 = .error stop ∧
        outcome = .runtimeError stop.message) := by
  unfold phase at h
  split at h
  next t result hp =>
  split at h
  · next hr =>
    cases h
    exact .inl ⟨hr, rfl⟩
  · next hr =>
    split at h
    · cases h
    · cases h
      exact .inr ⟨eq_false_of_ne_true hr, _, congrArg Prod.snd hp, rfl⟩

/-- Whatever ends a run in a phase, it is a failure. -/
theorem isError_of_phase_error {α : Type} {d : Dialogue (Except Stop α)} {r s : Robot}
    {outcome : Outcome} (h : phase d r = (s, .error outcome)) :
    ∃ message, outcome = .runtimeError message := by
  rcases phase_error h with ⟨_, ho⟩ | ⟨_, stop, _, ho⟩
  · exact ⟨_, ho⟩
  · exact ⟨_, ho⟩

theorem isError_of_opening_error {σ : Type} {b : Behaviour σ} {r s : Robot} {outcome : Outcome}
    (h : opening b r = (s, .error outcome)) : ∃ message, outcome = .runtimeError message := by
  unfold opening at h
  split at h
  · next ht =>
    cases h
    exact isError_of_phase_error ht
  · split at h
    · cases h
    · exact isError_of_phase_error h

theorem acts_of_phase {α : Type} {d : Dialogue (Except Stop α)} {r s : Robot}
    {result : Except Outcome α} (h : phase d r = (s, result)) : Acts r s := by
  have hr := phase_robot d r
  rw [h] at hr
  rw [show s = (d.play r).1 from hr]
  exact d.acts_play r

theorem acts_of_opening {σ : Type} {b : Behaviour σ} {r s : Robot} {result : Except Outcome σ}
    (h : opening b r = (s, result)) : Acts r s := by
  unfold opening at h
  split at h
  · next ht =>
    cases h
    exact acts_of_phase ht
  · next t ht =>
    split at h
    · cases h
      exact acts_of_phase ht
    · exact (acts_of_phase ht).trans (acts_of_phase h)

theorem acts_ticking {σ : Type} (update : σ → Dialogue (Except Stop σ)) (remaining : Nat)
    (count : UInt32) (memory : σ) (r : Robot) :
    Acts r (ticking update remaining count memory r).robot := by
  fun_induction ticking update remaining count memory r with
  | case1 => exact .refl
  | case2 => exact .refl
  | case3 => exact .refl
  | case4 remaining count memory r hd s outcome hp => exact acts_of_phase hp
  | case5 remaining count memory r hd s after hp hg => exact acts_of_phase hp
  | case6 remaining count memory r hd s after hp hg ih => exact (acts_of_phase hp).trans ih

theorem acts_ticks {σ : Type} (b : Behaviour σ) (maxTicks : UInt32) (memory : σ) (r : Robot) :
    Acts r (ticks b maxTicks memory r).robot := by
  unfold ticks
  split
  · exact .refl
  · exact acts_ticking _ _ _ _ _

/-- Every run of every behaviour is a sequence of elementary actions. -/
theorem acts_drive {σ : Type} (b : Behaviour σ) (maxTicks : UInt32) (r : Robot) :
    Acts r (drive b maxTicks r).robot := by
  unfold drive
  split
  · next ho => exact acts_of_opening ho
  · next ho => exact (acts_of_opening ho).trans (acts_ticks _ _ _ _)

/-- The closing lines are lines. -/
theorem acts_closed (e : Ended) : Acts e.robot e.closed := by
  unfold Ended.closed
  split
  · exact acts_note _ _
  · exact acts_note _ _
  · exact (acts_note _ _).trans (acts_note _ _)
  · exact acts_note _ _

section Reading

variable {σ : Type} (reading : Except String (Behaviour σ)) (maxTicks : UInt32) (r : Robot)

/-- Whatever a text was read as, its run is a sequence of elementary actions, with and
without the closing lines. -/
theorem acts_attempt : Acts r (attempt reading maxTicks r).robot := by
  cases reading with
  | error message => exact .refl
  | ok b => exact acts_drive b maxTicks r

theorem acts_closed_attempt : Acts r (attempt reading maxTicks r).closed :=
  (acts_attempt reading maxTicks r).trans (acts_closed _)

/-- In a grid with a start, whatever a text was read as has a report. -/
theorem execute_of_findStart (config : EngineConfig) {grid : Grid} {start : Coord}
    (hs : grid.findStart = .ok start) (goal : Coord) :
    execute config reading grid goal =
      .ok ((attempt reading config.maxTicks (init grid start goal config.maxSteps)).report
        start) := by
  rw [execute, hs]

end Reading

end Run

namespace Engine

/-- In a grid with a start, a text has a report. -/
theorem execute_of_findStart (config : EngineConfig) {grid : Grid} {start : Coord}
    (hs : grid.findStart = .ok start) (goal : Coord) (code : String) :
    execute config grid goal code =
      .ok ((run config code (init grid start goal config.maxSteps)).report start) :=
  Run.execute_of_findStart _ config hs goal

end Engine

end MazeRobot
