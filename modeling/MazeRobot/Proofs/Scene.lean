import MazeRobot.Proofs.Action

/-!
# Scenes of a run

A run plays dialogues one after the other: the top, the start, and the first,
second, … update. A scene is one of them with the robot that it begins with,
and the exchanges of a scene are the calls that it makes. The scenes of a run
follow on one another from the first robot of the run to its last one, so what
happened during a run happened in one of its scenes.
-/

namespace MazeRobot

/-- A call, and the robot that it is made to. -/
structure Exchange where
  /-- The robot before the call. -/
  robot : Robot
  /-- The call. -/
  call : Call

/-- The refusal that a reply tells, if it tells one. -/
def Call.refusal? : (c : Call) → c.Reply → Option Refusal
  | .move _, .error refusal => some refusal
  | .turn _, .error refusal => some refusal
  | _, _ => none

theorem Call.refusal?_move {count : Int64} {reply : Except Refusal Bool} {refusal : Refusal} :
    Call.refusal? (.move count) reply = some refusal ↔ reply = .error refusal := by
  cases reply <;> simp [refusal?]

theorem Call.refusal?_turn {word : String} {reply : Except Refusal Unit} {refusal : Refusal} :
    Call.refusal? (.turn word) reply = some refusal ↔ reply = .error refusal := by
  cases reply <;> simp [refusal?]

namespace Exchange

/-- The robot after the call. -/
def after (e : Exchange) : Robot := (e.robot.answer e.call).1

/-- The refusal of a step that was asked for, if it was refused. -/
def refusal? (e : Exchange) : Option Refusal := e.call.refusal? (e.robot.answer e.call).2

end Exchange

namespace Dialogue

open Robot

/-- The calls that a dialogue makes when it is played on a robot. -/
def exchanges {α : Type} : Dialogue α → Robot → List Exchange
  | done _, _ => []
  | ask call next, r => ⟨r, call⟩ :: (next (r.answer call).2).exchanges (r.answer call).1

/-- An exchange lies between the robots at both ends of its dialogue. -/
theorem acts_of_mem_exchanges {α : Type} {d : Dialogue α} {r : Robot} {e : Exchange}
    (h : e ∈ d.exchanges r) : Acts r e.robot ∧ Acts e.after (d.play r).1 := by
  induction d generalizing r with
  | done a => cases h
  | ask call next ih =>
    rcases List.mem_cons.mp h with rfl | hrest
    · exact ⟨.refl, acts_play _ _⟩
    · obtain ⟨hbefore, hafter⟩ := ih _ hrest
      exact ⟨(acts_answer r call).trans hbefore, hafter⟩

/-- The calls of two dialogues, one after the other. -/
theorem exchanges_bind {α β : Type} (d : Dialogue α) (f : α → Dialogue β) (r : Robot) :
    (d.bind f).exchanges r = d.exchanges r ++ (f (d.play r).2).exchanges (d.play r).1 := by
  induction d generalizing r with
  | done a => rfl
  | ask call next ih => exact congrArg (List.cons _) (ih _ _)

end Dialogue

namespace Run

open Robot

/-- The parts of a run. -/
inductive Stage where
  /-- What is done before anything else. -/
  | top
  /-- What is done once. -/
  | start
  /-- What is done at a tick; the first one has number one. -/
  | update (number : Nat)
  deriving DecidableEq, Repr

/-- Whether a part of a run is that of a tick. -/
def Stage.isUpdate : Stage → Bool
  | top | start => false
  | update _ => true

/-- A dialogue that a run plays. -/
structure Scene where
  /-- The part of the run. -/
  stage : Stage
  /-- The robot that it begins with. -/
  robot : Robot
  /-- What is done; what it leaves for later scenes is left out. -/
  dialogue : Dialogue (Except Stop Unit)

namespace Scene

/-- The scene of a dialogue. -/
def of {α : Type} (stage : Stage) (d : Dialogue (Except Stop α)) (r : Robot) : Scene where
  stage := stage
  robot := r
  dialogue := d.bind fun result => .done (result.map fun _ => ())

/-- The robot afterwards. -/
def after (s : Scene) : Robot := (s.dialogue.play s.robot).1

/-- The calls that were made. -/
def exchanges (s : Scene) : List Exchange := s.dialogue.exchanges s.robot

theorem after_of {α : Type} (stage : Stage) (d : Dialogue (Except Stop α)) (r : Robot) :
    (of stage d r).after = (d.play r).1 := by
  rw [after, of, Dialogue.play_bind]
  rfl

theorem exchanges_of {α : Type} (stage : Stage) (d : Dialogue (Except Stop α)) (r : Robot) :
    (of stage d r).exchanges = d.exchanges r := by
  rw [exchanges, of, Dialogue.exchanges_bind]
  exact List.append_nil _

end Scene

/-- A scene and, if it ends well, those after it. -/
def sceneThen {α : Type} (stage : Stage) (d : Dialogue (Except Stop α)) (r : Robot)
    (next : α → Robot → List Scene) : List Scene :=
  .of stage d r ::
    match phase d r with
    | (_, .error _) => []
    | (s, .ok a) => next a s

/-- The scenes of the ticks; the next one has a number and `remaining` are
left of the budget. -/
def tickingScenes {σ : Type} (update : σ → Dialogue (Except Stop σ)) :
    Nat → Nat → σ → Robot → List Scene
  | 0, _, _, _ => []
  | remaining + 1, number, memory, r =>
    if r.done then []
    else
      sceneThen (.update number) (update memory) r fun memory s =>
        if s.atGoal then [] else tickingScenes update remaining (number + 1) memory s

/-- The scenes after the opening. -/
def ticksScenes {σ : Type} (b : Behaviour σ) (maxTicks : UInt32) (memory : σ) (r : Robot) :
    List Scene :=
  match b.update with
  | none => []
  | some update => tickingScenes update maxTicks.toNat 1 memory r

/-- The scenes of a run, in the order in which they are played. -/
def scenes {σ : Type} (b : Behaviour σ) (maxTicks : UInt32) (r : Robot) : List Scene :=
  sceneThen .top b.top r fun () s =>
    match b.start with
    | none => ticksScenes b maxTicks b.memory s
    | some start => sceneThen .start (start b.memory) s (ticksScenes b maxTicks)

/-- How many scenes are those of ticks. -/
def updates (played : List Scene) : Nat := played.countP (·.stage.isUpdate)

/-- Scenes that follow on one another from one robot to another. -/
def Follow : Robot → List Scene → Robot → Prop
  | r, [], s => r = s
  | r, scene :: rest, s => scene.robot = r ∧ Follow scene.after rest s

theorem follow_append {r s : Robot} {earlier later : List Scene} :
    Follow r (earlier ++ later) s ↔ ∃ t, Follow r earlier t ∧ Follow t later s := by
  induction earlier generalizing r with
  | nil => simp [Follow]
  | cons scene rest ih => simp [Follow, ih, and_assoc]

/-- What follows on a last scene is the robot that it leaves. -/
theorem Follow.last {r s : Robot} {earlier : List Scene} {scene : Scene}
    (h : Follow r (earlier ++ [scene]) s) : scene.after = s := by
  obtain ⟨_, _, _, hlast⟩ := follow_append.mp h
  exact hlast

/-- A scene goes on to where the scenes after it lead, and it ends there if
there are none. -/
theorem follow_sceneThen {α : Type} {stage : Stage} {d : Dialogue (Except Stop α)} {r e : Robot}
    {next : α → Robot → List Scene}
    (hfailed : ∀ s outcome, phase d r = (s, .error outcome) → s = e)
    (hnext : ∀ s a, phase d r = (s, .ok a) → Follow s (next a s) e) :
    Follow r (sceneThen stage d r next) e := by
  refine ⟨rfl, ?_⟩
  rw [Scene.after_of, ← phase_robot]
  split
  · next hp =>
    rw [hp]
    exact hfailed _ _ hp
  · next hp =>
    rw [hp]
    exact hnext _ _ hp

theorem follow_ticking {σ : Type} (update : σ → Dialogue (Except Stop σ)) (remaining : Nat)
    (number : Nat) (count : UInt32) (memory : σ) (r : Robot) :
    Follow r (tickingScenes update remaining number memory r)
      (ticking update remaining count memory r).robot := by
  induction remaining generalizing number count memory r with
  | zero =>
    rw [ticking]
    split <;> rfl
  | succ remaining ih =>
    rw [ticking, tickingScenes]
    split
    · rfl
    · apply follow_sceneThen
      · intro s outcome hp
        rw [hp]
      · intro s after hp
        rw [hp]
        dsimp only
        split
        · rfl
        · exact ih _ _ _ _

theorem follow_ticks {σ : Type} (b : Behaviour σ) (maxTicks : UInt32) (memory : σ) (r : Robot) :
    Follow r (ticksScenes b maxTicks memory r) (ticks b maxTicks memory r).robot := by
  unfold ticksScenes ticks
  cases b.update with
  | none => rfl
  | some update => exact follow_ticking _ _ _ _ _ _

/-- The scenes of a run lead from its first robot to its last one. -/
theorem follow_scenes {σ : Type} (b : Behaviour σ) (maxTicks : UInt32) (r : Robot) :
    Follow r (scenes b maxTicks r) (drive b maxTicks r).robot := by
  unfold drive opening
  apply follow_sceneThen
  · intro s outcome hp
    rw [hp]
  · intro s _ hp
    rw [hp]
    dsimp only
    cases b.start with
    | none => exact follow_ticks _ _ _ _
    | some start =>
      apply follow_sceneThen
      · intro t outcome ht
        dsimp only
        rw [ht]
      · intro t memory ht
        dsimp only
        rw [ht]
        exact follow_ticks _ _ _ _

theorem updates_sceneThen {α : Type} (stage : Stage) (d : Dialogue (Except Stop α)) (r : Robot)
    (next : α → Robot → List Scene) :
    updates (sceneThen stage d r next) =
      (match phase d r with
        | (_, .error _) => 0
        | (s, .ok a) => updates (next a s)) + if stage.isUpdate then 1 else 0 := by
  unfold updates sceneThen
  rw [List.countP_cons]
  split <;> rfl

/-- The counter of ticks goes on by one for every scene of a tick. -/
theorem ticks_ticking {σ : Type} (update : σ → Dialogue (Except Stop σ)) (remaining : Nat)
    (number : Nat) (count : UInt32) (memory : σ) (r : Robot)
    (h : count.toNat + remaining < UInt32.size) :
    (ticking update remaining count memory r).ticks.toNat =
      count.toNat + updates (tickingScenes update remaining number memory r) := by
  induction remaining generalizing number count memory r with
  | zero =>
    rw [ticking]
    split <;> rfl
  | succ remaining ih =>
    have hsucc : (count + 1).toNat = count.toNat + 1 := toNat_add_one (by omega) h
    rw [ticking, tickingScenes]
    split
    · rfl
    · rw [updates_sceneThen]
      rcases phase (update memory) r with ⟨s, result⟩
      cases result with
      | error outcome => exact hsucc
      | ok after =>
        dsimp only
        split
        · exact hsucc
        · rw [ih (number + 1) (count + 1) after s (by omega), hsucc]
          exact Nat.add_right_comm _ _ _

theorem updates_tickingScenes_le {σ : Type} (update : σ → Dialogue (Except Stop σ))
    (remaining : Nat) (number : Nat) (memory : σ) (r : Robot) :
    updates (tickingScenes update remaining number memory r) ≤ remaining := by
  induction remaining generalizing number memory r with
  | zero => exact Nat.le_refl _
  | succ remaining ih =>
    rw [tickingScenes]
    split
    · exact Nat.zero_le _
    · rw [updates_sceneThen]
      apply Nat.add_le_add_right
      rcases phase (update memory) r with ⟨s, result⟩
      cases result with
      | error outcome => exact Nat.zero_le _
      | ok after =>
        dsimp only
        split
        · exact Nat.zero_le _
        · exact ih _ _ _

/-- The opening has no ticks. -/
theorem updates_scenes {σ : Type} (b : Behaviour σ) (maxTicks : UInt32) (r : Robot) :
    updates (scenes b maxTicks r) =
      match opening b r with
      | (_, .error _) => 0
      | (s, .ok memory) => updates (ticksScenes b maxTicks memory s) := by
  rw [scenes, opening, updates_sceneThen]
  rcases phase b.top r with ⟨s, result⟩
  cases result with
  | error outcome => rfl
  | ok _ =>
    cases b.start with
    | none => rfl
    | some start =>
      dsimp only
      rw [updates_sceneThen]
      rfl

/-- The ticks of a run are the scenes of its ticks. -/
theorem ticks_drive {σ : Type} (b : Behaviour σ) (maxTicks : UInt32) (r : Robot) :
    (drive b maxTicks r).ticks.toNat = updates (scenes b maxTicks r) := by
  rw [updates_scenes, drive]
  rcases opening b r with ⟨s, result⟩
  cases result with
  | error outcome => rfl
  | ok memory =>
    dsimp only
    rw [ticks, ticksScenes]
    cases b.update with
    | none => rfl
    | some update =>
      have hticks := ticks_ticking update maxTicks.toNat 1 0 memory s
      rw [UInt32.toNat_zero, Nat.zero_add, Nat.zero_add] at hticks
      exact hticks maxTicks.toNat_lt

/-- A run has no more scenes of ticks than its budget allows. -/
theorem updates_scenes_le {σ : Type} (b : Behaviour σ) (maxTicks : UInt32) (r : Robot) :
    updates (scenes b maxTicks r) ≤ maxTicks.toNat := by
  rw [updates_scenes]
  split
  · exact Nat.zero_le _
  · unfold ticksScenes
    split
    · exact Nat.zero_le _
    · exact updates_tickingScenes_le _ _ _ _ _

section Reading

variable {σ : Type} (reading : Except String (Behaviour σ)) (maxTicks : UInt32) (r : Robot)

/-- The scenes of the run of what a text was read as; there are none if it is no
script. -/
def scenesOf : List Scene :=
  match reading with
  | .error _ => []
  | .ok b => scenes b maxTicks r

/-- The scenes of a run lead to where it ended. -/
theorem follow_scenesOf :
    Follow r (scenesOf reading maxTicks r) (attempt reading maxTicks r).robot := by
  cases reading with
  | error message => rfl
  | ok b => exact follow_scenes b maxTicks r

/-- The ticks of a run are the scenes of its ticks. -/
theorem ticks_attempt :
    (attempt reading maxTicks r).ticks.toNat = updates (scenesOf reading maxTicks r) := by
  cases reading with
  | error message => rfl
  | ok b => exact ticks_drive b maxTicks r

theorem updates_scenesOf_le : updates (scenesOf reading maxTicks r) ≤ maxTicks.toNat := by
  cases reading with
  | error message => exact Nat.zero_le _
  | ok b => exact updates_scenes_le b maxTicks r

end Reading

end Run

namespace Engine

/-- The scenes of the run of a text; there are none if it is no script. -/
def scenes (config : EngineConfig) (code : String) (r : Robot) : List Run.Scene :=
  Run.scenesOf (reading config code) config.maxTicks r

end Engine

end MazeRobot
