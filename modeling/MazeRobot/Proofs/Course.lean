import MazeRobot.Proofs.Accounting

/-!
# The course of a run

A run goes through its parts in one order: the top, the start if there is one,
and the ticks, as many as the budget allows, if there is something to do at a
tick. It stops at the first part that fails or in which a step is refused, and
before the first tick that has nothing left to do: the run was declared over
or the last tick led onto the goal. How it ended can be told from the parts
that were played, by a table in which a failure comes first and giving up
comes last.
-/

namespace MazeRobot

namespace Robot

theorem done_moveTimes (count : Nat) (r : Robot) : (moveTimes count r).1.done = r.done := by
  induction count generalizing r with
  | zero => rfl
  | succ count ih =>
    rw [moveTimes]
    split
    · rfl
    · split
      · exact ih r.advance
      · rfl

theorem done_turn (r : Robot) (t : Turn) : (r.turn t).1.done = r.done := by
  unfold turn
  split <;> rfl

theorem done_look {α : Type} (r : Robot) (word : String) (preset : α)
    (read : Robot → Relative → α) : (r.look word preset read).1.done = r.done := by
  unfold look relativeNamed
  cases Relative.ofWord? word <;> rfl

/-- A run is declared over by one call and by no other. -/
theorem done_answer (r : Robot) (c : Call) :
    (r.answer c).1.done = (r.done || decide (c = .finish)) := by
  cases c with
  | finish => exact (Bool.or_true _).symm
  | move count =>
    refine Eq.trans ?_ (Bool.or_false _).symm
    rw [answer, moveForward]
    split
    · rfl
    · exact done_moveTimes _ r
  | turn word =>
    refine Eq.trans ?_ (Bool.or_false _).symm
    rw [answer, turnNamed]
    split
    · exact done_turn r _
    · rfl
  | isEmpty word =>
    refine Eq.trans ?_ (Bool.or_false _).symm
    cases word with
    | none => rfl
    | some word =>
      simp only [answer, neighbourNamed]
      cases Relative.ofNeighbourWord? word <;> rfl
  | isGoal word =>
    refine Eq.trans ?_ (Bool.or_false _).symm
    cases word with
    | none => rfl
    | some word => exact done_look r word _ _
  | hasVisited word =>
    refine Eq.trans ?_ (Bool.or_false _).symm
    cases word with
    | none => rfl
    | some word => exact done_look r word _ _
  | visitCount word =>
    refine Eq.trans ?_ (Bool.or_false _).symm
    cases word with
    | none => rfl
    | some word => exact done_look r word _ _
  | _ => exact (Bool.or_false _).symm

end Robot

/-- After a dialogue a run is declared over if it was so before or the dialogue
did it. -/
theorem Dialogue.done_play {α : Type} (d : Dialogue α) (r : Robot) :
    (d.play r).1.done = (r.done || (d.exchanges r).any (·.call = .finish)) := by
  induction d generalizing r with
  | done a => exact (Bool.or_false _).symm
  | ask call next ih =>
    rw [play, exchanges, List.any_cons, ← Bool.or_assoc, ← Robot.done_answer]
    exact ih _ _

namespace Run

namespace Scene

/-- Whether the run is declared over in a scene. -/
def declares (s : Scene) : Bool := s.exchanges.any (·.call = .finish)

/-- What a scene came to. -/
def result (s : Scene) : Except Stop Unit := (s.dialogue.play s.robot).2

/-- What went wrong in a scene, if something did. A refused step takes
precedence over whatever the scene made of it. -/
def failure? (s : Scene) : Option String :=
  if s.after.refused then some (ceilingMessage s.after)
  else
    match s.result with
    | .error stop => some stop.message
    | .ok () => none

theorem done_after (s : Scene) : s.after.done = (s.robot.done || s.declares) :=
  s.dialogue.done_play s.robot

theorem result_of {α : Type} (stage : Stage) (d : Dialogue (Except Stop α)) (r : Robot) :
    (of stage d r).result = (d.play r).2.map fun _ => () := by
  rw [result, of, Dialogue.play_bind]
  rfl

/-- Nothing went wrong in a scene that ended well and without a refusal. -/
theorem failure?_eq_none_iff (s : Scene) :
    s.failure? = none ↔ s.result = .ok () ∧ s.after.refused = false := by
  unfold failure?
  cases s.after.refused <;> cases s.result <;> simp

end Scene

/-- What went wrong in the last of some scenes, if something did. -/
def failure? (played : List Scene) : Option String := played.getLast?.bind Scene.failure?

/-- How a run ended, by what went wrong at last, by how many ticks there were,
and by whether the robot is on its goal and the run was declared over. -/
def verdict (ticking : Bool) (maxTicks : UInt32) (failure : Option String) (updates : Nat)
    (onGoal declared : Bool) : Outcome :=
  match failure with
  | some message => .runtimeError message
  | none =>
    if !ticking then .completed .noTick
    else if 0 < updates && onGoal then .completed .goal
    else if declared then .completed .done
    else .stepLimitExceeded maxTicks

/-- The parts of a run in their order, with so many ticks. -/
def schedule (starting ticking : Bool) (count : Nat) : List Stage :=
  .top :: ((if starting then [.start] else []) ++
    if ticking then (List.range' 1 count).map .update else [])

/-- A scene is the part of a behaviour that its stage tells. -/
inductive PartOf {σ : Type} (b : Behaviour σ) : Scene → Prop where
  /-- The top. -/
  | top (r : Robot) : PartOf b (.of .top b.top r)
  /-- What is done at the start, with the first memory. -/
  | start {start : σ → Dialogue (Except Stop σ)} (some : b.start = some start) (r : Robot) :
      PartOf b (.of .start (start b.memory) r)
  /-- What is done at a tick, with some memory. -/
  | update {update : σ → Dialogue (Except Stop σ)} (some : b.update = some update)
      (number : Nat) (memory : σ) (r : Robot) :
      PartOf b (.of (.update number) (update memory) r)

/-- A scene may be followed by another one: nothing went wrong in it, and
before a tick the run was not declared over and no tick led onto the goal. -/
structure Permits (s t : Scene) : Prop where
  /-- It ended well. -/
  result : s.result = .ok ()
  /-- No step was refused. -/
  unrefused : s.after.refused = false
  /-- There is something left to do at a tick. -/
  tick : t.stage.isUpdate = true →
    s.declares = false ∧ (s.stage.isUpdate = true → s.after.atGoal = false)

/-- The course of a run from its first robot to its end. -/
structure Course {σ : Type} (b : Behaviour σ) (maxTicks : UInt32) (r : Robot)
    (played : List Scene) (ended : Ended) : Prop where
  /-- The scenes lead from the first robot to the one with which the run ended. -/
  follow : Follow r played ended.robot
  /-- They are parts of the behaviour. -/
  parts : ∀ scene ∈ played, PartOf b scene
  /-- They come in order and keep to the budget. -/
  stages : played.map Scene.stage <+: schedule b.start.isSome b.update.isSome maxTicks.toNat
  /-- If nothing went wrong, none was left out before the ticks. -/
  complete : failure? played = none →
    played.map Scene.stage = schedule b.start.isSome b.update.isSome (updates played)
  /-- Each of them was permitted by all before it. -/
  permitted : played.Pairwise Permits
  /-- The ticks that are told are those that were begun. -/
  counted : ended.ticks.toNat = updates played
  /-- The budget of ticks is kept. -/
  within : ended.ticks ≤ maxTicks
  /-- The outcome is the verdict on the scenes. -/
  judged : ended.outcome = verdict b.update.isSome maxTicks (failure? played) (updates played)
    ended.robot.atGoal (played.any Scene.declares)
  /-- A run gives up after all ticks of the budget. -/
  gaveUp : ∀ count, ended.outcome = .stepLimitExceeded count →
    count = maxTicks ∧ ended.ticks = maxTicks

/-- A run is declared over in the end if it was so before or some scene did
it. -/
theorem Follow.done {r s : Robot} {played : List Scene} (h : Follow r played s) :
    s.done = (r.done || played.any Scene.declares) := by
  induction played generalizing r with
  | nil =>
    rw [show r = s from h]
    exact (Bool.or_false _).symm
  | cons scene rest ih =>
    obtain ⟨rfl, hrest⟩ := h
    rw [ih hrest, scene.done_after, List.any_cons, Bool.or_assoc]

/-- A phase that does not end the run ended well and without a refusal. -/
theorem phase_ok {α : Type} {d : Dialogue (Except Stop α)} {r s : Robot} {a : α}
    (h : phase d r = (s, .ok a)) : d.play r = (s, .ok a) ∧ s.refused = false := by
  unfold phase at h
  split at h
  next t result hp =>
  split at h
  · cases h
  · next hr =>
    split at h
    · cases h
      exact ⟨hp, eq_false_of_ne_true hr⟩
    · cases h

section Phase

variable {α : Type} (stage : Stage) {d : Dialogue (Except Stop α)} {r s : Robot}

/-- Nothing went wrong in the scene of a phase that does not end the run. -/
theorem failure?_of_phase_ok {a : α} (h : phase d r = (s, .ok a)) :
    (Scene.of stage d r).failure? = none := by
  obtain ⟨hp, hr⟩ := phase_ok h
  rw [Scene.failure?_eq_none_iff, Scene.result_of, Scene.after_of, hp]
  exact ⟨rfl, hr⟩

/-- What ends a run in a phase is what went wrong in its scene. -/
theorem failure?_of_phase_error {outcome : Outcome} (h : phase d r = (s, .error outcome)) :
    ∃ message, (Scene.of stage d r).failure? = some message ∧
      outcome = .runtimeError message := by
  have hs : (d.play r).1 = s := by
    rw [← phase_robot, h]
  rw [Scene.failure?, Scene.result_of, Scene.after_of, hs]
  rcases phase_error h with ⟨hr, ho⟩ | ⟨hr, stop, hstop, ho⟩
  · rw [if_pos hr]
    exact ⟨_, rfl, ho⟩
  · rw [if_neg (ne_true_of_eq_false hr), hstop]
    exact ⟨stop.message, rfl, ho⟩

/-- The robot that a scene leaves is the one that its phase leaves. -/
theorem after_of_phase {result : Except Outcome α} (h : phase d r = (s, result)) :
    (Scene.of stage d r).after = s := by
  rw [Scene.after_of, ← phase_robot, h]

end Phase

theorem failure?_singleton (scene : Scene) : failure? [scene] = scene.failure? := rfl

/-- A scene that ended well has no part in what went wrong at last. -/
theorem failure?_cons {scene : Scene} (h : scene.failure? = none) (rest : List Scene) :
    failure? (scene :: rest) = failure? rest := by
  cases rest with
  | nil => exact h
  | cons next rest => rfl

section Scenes

variable {σ : Type} (b : Behaviour σ) (maxTicks : UInt32)

/-- The stages of the ticks are numbered one after the other. -/
theorem stages_tickingScenes (update : σ → Dialogue (Except Stop σ)) (remaining number : Nat)
    (memory : σ) (r : Robot) :
    (tickingScenes update remaining number memory r).map Scene.stage =
      (List.range' number (updates (tickingScenes update remaining number memory r))).map
        .update := by
  induction remaining generalizing number memory r with
  | zero => rfl
  | succ remaining ih =>
    rw [tickingScenes]
    split
    · rfl
    · rw [updates_sceneThen, sceneThen, List.map_cons]
      rcases phase (update memory) r with ⟨s, result⟩
      cases result with
      | error outcome => rfl
      | ok after =>
        dsimp only
        split
        · rfl
        · rw [ih]
          rfl

/-- Without a tick there is no scene of one. -/
theorem tickingScenes_eq_nil {update : σ → Dialogue (Except Stop σ)} {remaining number : Nat}
    {memory : σ} {r : Robot}
    (h : updates (tickingScenes update remaining number memory r) = 0) :
    tickingScenes update remaining number memory r = [] := by
  have hstages := stages_tickingScenes update remaining number memory r
  rw [h] at hstages
  exact List.map_eq_nil_iff.mp hstages

theorem stages_ticksScenes (memory : σ) (r : Robot) :
    (ticksScenes b maxTicks memory r).map Scene.stage =
      if b.update.isSome then
        (List.range' 1 (updates (ticksScenes b maxTicks memory r))).map .update
      else [] := by
  unfold ticksScenes
  cases b.update with
  | none => rfl
  | some update => exact stages_tickingScenes update _ 1 memory r

/-- A run goes through its parts in order, and it stops before the ticks only
if something went wrong. -/
theorem stages_scenes (r : Robot) :
    (scenes b maxTicks r).map Scene.stage =
        schedule b.start.isSome b.update.isSome (updates (scenes b maxTicks r)) ∨
      failure? (scenes b maxTicks r) ≠ none ∧
        (scenes b maxTicks r).map Scene.stage <+: schedule b.start.isSome b.update.isSome 0 := by
  unfold scenes
  rw [updates_sceneThen, sceneThen]
  rcases htop : phase b.top r with ⟨s, result⟩
  cases result with
  | error outcome =>
    obtain ⟨message, hf, _⟩ := failure?_of_phase_error .top htop
    refine .inr ⟨?_, ?_⟩
    · rw [failure?_singleton, hf]
      exact Option.some_ne_none message
    · exact ⟨_, rfl⟩
  | ok done =>
    have hwell := failure?_of_phase_ok .top htop
    dsimp only
    rw [failure?_cons hwell]
    cases hb : b.start with
    | none =>
      refine .inl ?_
      dsimp only
      rw [List.map_cons, stages_ticksScenes]
      rfl
    | some start =>
      dsimp only
      rw [updates_sceneThen, sceneThen]
      rcases hstart : phase (start b.memory) s with ⟨t, result⟩
      cases result with
      | error outcome =>
        obtain ⟨message, hf, _⟩ := failure?_of_phase_error .start hstart
        refine .inr ⟨?_, ?_⟩
        · rw [failure?_singleton, hf]
          exact Option.some_ne_none message
        · exact ⟨_, rfl⟩
      | ok memory =>
        refine .inl ?_
        dsimp only
        rw [List.map_cons, List.map_cons, stages_ticksScenes]
        rfl

/-- With more ticks the schedule goes on. -/
theorem schedule_isPrefix (starting ticking : Bool) {few many : Nat} (h : few ≤ many) :
    schedule starting ticking few <+: schedule starting ticking many := by
  have hrange : List.range' 1 few <+: List.range' 1 many := by
    rw [← Nat.add_sub_cancel' h, ← List.range'_append_1]
    exact List.prefix_append _ _
  refine List.cons_prefix_cons.mpr ⟨rfl, (List.prefix_append_right_inj _).mpr ?_⟩
  cases ticking with
  | false => exact List.prefix_rfl
  | true => exact hrange.map Stage.update

/-- A run that is not declared over after a phase was not so before it. -/
theorem undone_of_phase {α : Type} {d : Dialogue (Except Stop α)} {r s : Robot}
    {result : Except Outcome α} (h : phase d r = (s, result)) (hs : s.done = false) :
    r.done = false ∧ ∀ stage, (Scene.of stage d r).declares = false := by
  have hdone (stage : Stage) : s.done = (r.done || (Scene.of stage d r).declares) := by
    rw [← after_of_phase stage h]
    exact Scene.done_after _
  rw [hs] at hdone
  exact ⟨(Bool.or_eq_false_iff.mp (hdone .top).symm).1,
    fun stage => (Bool.or_eq_false_iff.mp (hdone stage).symm).2⟩

/-- A scene permits those after it if they permit each other, begin with ticks
only in a run that is not declared over, and do so after a tick only off the
goal. -/
theorem permitted_sceneThen {α : Type} {stage : Stage} {d : Dialogue (Except Stop α)} {r : Robot}
    {next : α → Robot → List Scene}
    (hnext : ∀ s a, phase d r = (s, .ok a) → (next a s).Pairwise Permits)
    (htick : ∀ s a, phase d r = (s, .ok a) → ∀ t ∈ next a s, t.stage.isUpdate = true →
      s.done = false ∧ (stage.isUpdate = true → s.atGoal = false)) :
    (sceneThen stage d r next).Pairwise Permits := by
  unfold sceneThen
  rcases hp : phase d r with ⟨s, result⟩
  cases result with
  | error outcome => exact List.pairwise_singleton _ _
  | ok a =>
    obtain ⟨hplay, hr⟩ := phase_ok hp
    refine List.Pairwise.cons (fun t ht => ⟨?_, ?_, fun hu => ?_⟩) (hnext s a hp)
    · rw [Scene.result_of, hplay]
      rfl
    · rwa [after_of_phase stage hp]
    · obtain ⟨hdone, hgoal⟩ := htick s a hp t ht hu
      rw [after_of_phase stage hp]
      exact ⟨(undone_of_phase hp hdone).2 stage, hgoal⟩

/-- Ticks begin only in a run that is not declared over. -/
theorem undone_of_mem_tickingScenes {update : σ → Dialogue (Except Stop σ)}
    {remaining number : Nat} {memory : σ} {r : Robot} {t : Scene}
    (h : t ∈ tickingScenes update remaining number memory r) : r.done = false := by
  cases remaining with
  | zero => cases h
  | succ remaining =>
    rw [tickingScenes] at h
    split at h
    · cases h
    · next hd => exact eq_false_of_ne_true hd

theorem undone_of_mem_ticksScenes {b : Behaviour σ} {maxTicks : UInt32} {memory : σ} {r : Robot}
    {t : Scene} (h : t ∈ ticksScenes b maxTicks memory r) : r.done = false := by
  unfold ticksScenes at h
  split at h
  · cases h
  · exact undone_of_mem_tickingScenes h

theorem permitted_tickingScenes (update : σ → Dialogue (Except Stop σ))
    (remaining number : Nat) (memory : σ) (r : Robot) :
    (tickingScenes update remaining number memory r).Pairwise Permits := by
  induction remaining generalizing number memory r with
  | zero => exact .nil
  | succ remaining ih =>
    rw [tickingScenes]
    split
    · exact .nil
    · refine permitted_sceneThen (fun s a _ => ?_) (fun s a _ t ht _ => ?_)
      · split
        · exact .nil
        · exact ih _ _ _
      · split at ht
        · cases ht
        · next hg => exact ⟨undone_of_mem_tickingScenes ht, fun _ => eq_false_of_ne_true hg⟩

theorem permitted_ticksScenes (memory : σ) (r : Robot) :
    (ticksScenes b maxTicks memory r).Pairwise Permits := by
  unfold ticksScenes
  split
  · exact .nil
  · exact permitted_tickingScenes _ _ _ _ _

/-- Each scene of a run is permitted by all before it. -/
theorem permitted_scenes (r : Robot) : (scenes b maxTicks r).Pairwise Permits := by
  refine permitted_sceneThen (fun s _ _ => ?_) (fun s _ _ t ht hu => ⟨?_, nofun⟩)
  · cases b.start with
    | none => exact permitted_ticksScenes b maxTicks _ _
    | some start =>
      refine permitted_sceneThen (fun t memory _ => permitted_ticksScenes b maxTicks _ _) ?_
      exact fun t memory _ later hlater _ => ⟨undone_of_mem_ticksScenes hlater, nofun⟩
  · cases hb : b.start with
    | none =>
      rw [hb] at ht
      exact undone_of_mem_ticksScenes ht
    | some start =>
      rw [hb] at ht
      -- The start itself is no tick, so a tick is behind it.
      rcases List.mem_cons.mp ht with rfl | ht
      · cases hu
      · rcases hp : phase (start b.memory) s with ⟨after, result⟩
        rw [hp] at ht
        cases result with
        | error outcome => cases ht
        | ok memory => exact (undone_of_phase hp (undone_of_mem_ticksScenes ht)).1

/-- What holds of a scene and, if it ends well, of those after it, holds of all
of them. -/
theorem of_mem_sceneThen {α : Type} {stage : Stage} {d : Dialogue (Except Stop α)} {r : Robot}
    {next : α → Robot → List Scene} {P : Scene → Prop} (hfirst : P (.of stage d r))
    (hnext : ∀ s a, phase d r = (s, .ok a) → ∀ scene ∈ next a s, P scene) :
    ∀ scene ∈ sceneThen stage d r next, P scene := by
  intro scene h
  rcases List.mem_cons.mp h with rfl | h
  · exact hfirst
  · split at h
    · cases h
    · next hp => exact hnext _ _ hp scene h

theorem partOf_tickingScenes {b : Behaviour σ} {update : σ → Dialogue (Except Stop σ)}
    (hu : b.update = some update) (remaining number : Nat) (memory : σ) (r : Robot) :
    ∀ scene ∈ tickingScenes update remaining number memory r, PartOf b scene := by
  induction remaining generalizing number memory r with
  | zero => exact fun _ h => absurd h List.not_mem_nil
  | succ remaining ih =>
    rw [tickingScenes]
    split
    · exact fun _ h => absurd h List.not_mem_nil
    · refine of_mem_sceneThen (.update hu number memory r) fun s after _ => ?_
      split
      · exact fun _ h => absurd h List.not_mem_nil
      · exact ih _ _ _

theorem partOf_ticksScenes (memory : σ) (r : Robot) :
    ∀ scene ∈ ticksScenes b maxTicks memory r, PartOf b scene := by
  unfold ticksScenes
  split
  · exact fun _ h => absurd h List.not_mem_nil
  · next hu => exact partOf_tickingScenes hu _ _ _ _

/-- The scenes of a run are parts of its behaviour. -/
theorem partOf_scenes (r : Robot) : ∀ scene ∈ scenes b maxTicks r, PartOf b scene := by
  refine of_mem_sceneThen (.top r) fun s _ _ => ?_
  split
  · exact partOf_ticksScenes b maxTicks _ _
  · next hb =>
    exact of_mem_sceneThen (.start hb s) fun t memory _ => partOf_ticksScenes b maxTicks _ _

/-- Ticks end as the verdict on their scenes tells. -/
theorem outcome_ticking {update : σ → Dialogue (Except Stop σ)} {remaining : Nat}
    (number : Nat) {count : UInt32} (memory : σ) (r : Robot)
    (h : count.toNat + remaining = maxTicks.toNat) :
    (ticking update remaining count memory r).outcome =
      verdict true maxTicks (failure? (tickingScenes update remaining number memory r))
        (updates (tickingScenes update remaining number memory r))
        (ticking update remaining count memory r).robot.atGoal
        (ticking update remaining count memory r).robot.done := by
  induction remaining generalizing number count memory r with
  | zero =>
    have hcount : count = maxTicks := UInt32.toNat_inj.mp h
    rw [ticking, hcount]
    split
    · next hd => exact (if_pos hd).symm
    · next hd => exact (if_neg hd).symm
  | succ remaining ih =>
    have hsucc : (count + 1).toNat = count.toNat + 1 :=
      toNat_add_one (m := maxTicks.toNat) (by omega) maxTicks.toNat_lt
    rw [ticking, tickingScenes]
    split
    · next hd => exact (if_pos hd).symm
    · rw [updates_sceneThen, sceneThen]
      rcases hp : phase (update memory) r with ⟨s, result⟩
      cases result with
      | error outcome =>
        obtain ⟨message, hf, ho⟩ := failure?_of_phase_error (.update number) hp
        dsimp only
        rw [failure?_singleton, hf, ho]
        rfl
      | ok after =>
        dsimp only
        rw [failure?_cons (failure?_of_phase_ok (.update number) hp)]
        split
        · next hg =>
          rw [hg]
          rfl
        · next hg =>
          have hleft : (count + 1).toNat + remaining = maxTicks.toNat := by omega
          have hrest := ih (number + 1) after s hleft
          have hfollow := follow_ticking update remaining (number + 1) (count + 1) after s
          generalize hlater : tickingScenes update remaining (number + 1) after s = later at *
          rw [hrest]
          rcases Nat.eq_zero_or_pos (updates later) with hnone | hsome
          · -- This was the last tick, and it did not lead onto the goal.
            rw [← hlater] at hnone
            rw [tickingScenes_eq_nil hnone] at hlater
            rw [← hlater] at hfollow ⊢
            rw [← show s = _ from hfollow, eq_false_of_ne_true hg]
            rfl
          · unfold verdict
            have hmore : 0 < updates later + 1 := Nat.succ_pos _
            simp only [hsome, hmore, Stage.isUpdate, if_true]

theorem outcome_ticks (memory : σ) (r : Robot) :
    (ticks b maxTicks memory r).outcome =
      verdict b.update.isSome maxTicks (failure? (ticksScenes b maxTicks memory r))
        (updates (ticksScenes b maxTicks memory r)) (ticks b maxTicks memory r).robot.atGoal
        (ticks b maxTicks memory r).robot.done := by
  unfold ticks ticksScenes
  cases b.update with
  | none => rfl
  | some update =>
    exact outcome_ticking maxTicks 1 memory r (Nat.zero_add _)

/-- A run ends as the verdict on its scenes tells. -/
theorem outcome_drive (r : Robot) :
    (drive b maxTicks r).outcome =
      verdict b.update.isSome maxTicks (failure? (scenes b maxTicks r))
        (updates (scenes b maxTicks r)) (drive b maxTicks r).robot.atGoal
        (drive b maxTicks r).robot.done := by
  unfold drive opening scenes
  rw [updates_sceneThen, sceneThen]
  rcases htop : phase b.top r with ⟨s, result⟩
  cases result with
  | error outcome =>
    obtain ⟨message, hf, ho⟩ := failure?_of_phase_error .top htop
    dsimp only
    rw [failure?_singleton, hf, ho]
    rfl
  | ok done =>
    dsimp only
    rw [failure?_cons (failure?_of_phase_ok .top htop)]
    cases hb : b.start with
    | none => exact outcome_ticks b maxTicks b.memory s
    | some start =>
      dsimp only
      rw [updates_sceneThen, sceneThen]
      rcases hstart : phase (start b.memory) s with ⟨t, result⟩
      cases result with
      | error outcome =>
        obtain ⟨message, hf, ho⟩ := failure?_of_phase_error .start hstart
        dsimp only
        rw [failure?_singleton, hf, ho]
        rfl
      | ok memory =>
        dsimp only
        rw [failure?_cons (failure?_of_phase_ok .start hstart)]
        exact outcome_ticks b maxTicks memory t

theorem gaveUp_ticking (update : σ → Dialogue (Except Stop σ)) (remaining : Nat)
    (count : UInt32) (memory : σ) (r : Robot) {n : UInt32}
    (h : (ticking update remaining count memory r).outcome = .stepLimitExceeded n) :
    (ticking update remaining count memory r).ticks = n := by
  fun_induction ticking update remaining count memory r with
  | case1 => cases h
  | case2 =>
    cases h
    rfl
  | case3 => cases h
  | case4 remaining count memory r hd s outcome hp =>
    obtain ⟨message, ho⟩ := isError_of_phase_error hp
    rw [ho] at h
    cases h
  | case5 => cases h
  | case6 remaining count memory r hd s after hp hg ih => exact ih h

/-- The ticks after which a run gives up are those that are told. -/
theorem gaveUp_drive {r : Robot} {n : UInt32}
    (h : (drive b maxTicks r).outcome = .stepLimitExceeded n) :
    (drive b maxTicks r).ticks = n := by
  unfold drive at h ⊢
  split at h
  · next ho =>
    obtain ⟨message, hm⟩ := isError_of_opening_error ho
    rw [hm] at h
    cases h
  · unfold ticks at h ⊢
    split at h
    · cases h
    · exact gaveUp_ticking _ _ _ _ _ h

/-- Who gives up does so for want of ticks. -/
theorem eq_of_verdict {ticking onGoal declared : Bool} {maxTicks n : UInt32}
    {failure : Option String} {updates : Nat}
    (h : verdict ticking maxTicks failure updates onGoal declared = .stepLimitExceeded n) :
    n = maxTicks := by
  unfold verdict at h
  split at h
  · cases h
  · split at h
    · cases h
    · split at h
      · cases h
      · split at h
        · cases h
        · exact (Outcome.stepLimitExceeded.inj h).symm

/-- Every run that is not declared over at first takes its course. -/
theorem course_drive {r : Robot} (hr : r.done = false) :
    Course b maxTicks r (scenes b maxTicks r) (drive b maxTicks r) := by
  have hfollow := follow_scenes b maxTicks r
  have hdone : (drive b maxTicks r).robot.done = (scenes b maxTicks r).any Scene.declares := by
    rw [hfollow.done, hr, Bool.false_or]
  have hcounted := ticks_drive b maxTicks r
  have hle := updates_scenes_le b maxTicks r
  have hstages := stages_scenes b maxTicks r
  have hjudged := outcome_drive b maxTicks r
  rw [hdone] at hjudged
  constructor
  · exact hfollow
  · exact partOf_scenes b maxTicks r
  · rcases hstages with hall | ⟨_, hcut⟩
    · rw [hall]
      exact schedule_isPrefix _ _ hle
    · exact hcut.trans (schedule_isPrefix _ _ (Nat.zero_le _))
  · intro hnone
    rcases hstages with hall | ⟨hwrong, _⟩
    · exact hall
    · exact absurd hnone hwrong
  · exact permitted_scenes b maxTicks r
  · exact hcounted
  · rw [UInt32.le_iff_toNat_le, hcounted]
    exact hle
  · exact hjudged
  · intro n ho
    have hn : n = maxTicks := eq_of_verdict (hjudged.symm.trans ho)
    exact ⟨hn, (gaveUp_drive b maxTicks ho).trans hn⟩

end Scenes

section Reading

variable {σ : Type} (reading : Except String (Behaviour σ))

/-- A run ends for its text exactly if that is no script, with what is wrong there. -/
theorem outcome_eq_parseError_iff (maxTicks : UInt32) (r : Robot) (message : String) :
    (attempt reading maxTicks r).outcome = .parseError message ↔ reading = .error message := by
  cases reading with
  | error wrong =>
    constructor
    · rintro ⟨⟩
      rfl
    · rintro ⟨⟩
      rfl
  | ok b =>
    constructor
    · exact fun h => absurd h (drive_ne_parseError b maxTicks r message)
    · rintro ⟨⟩

/-- Whatever a text was read as, the report is on the run: what is no script is not run
at all, and otherwise the run takes its course and is judged by it. -/
theorem execute_takes_course (config : EngineConfig) {grid : Grid} {start : Coord}
    (hs : grid.findStart = .ok start) (goal : Coord) :
    let first := Robot.init grid start goal config.maxSteps
    let played := scenesOf reading config.maxTicks first
    let ended := attempt reading config.maxTicks first
    execute config reading grid goal = .ok (ended.report start) ∧
      (∀ message, reading = .error message →
        played = [] ∧ ended = ⟨first, .parseError message, 0⟩) ∧
      ∀ b, reading = .ok b → Course b config.maxTicks first played ended := by
  intro first played ended
  refine ⟨execute_of_findStart reading config hs goal, fun message h => ?_, fun b h => ?_⟩
  · subst h
    exact ⟨rfl, rfl⟩
  · subst h
    exact course_drive b config.maxTicks rfl

end Reading

end Run

namespace Engine

/-- A text that is no script fails its check, and only such a text does. -/
theorem check_error_iff (config : EngineConfig) (code : String) (e : Script.ParseError) :
    check config code = .error e ↔ Script.Program.ofText config.limits code = .error e := by
  unfold check
  cases Script.Program.ofText config.limits code <;> simp

/-- A text that is no script is read as what its check tells. -/
theorem reading_eq_error_iff (config : EngineConfig) (code : String) (message : String) :
    reading config code = .error message ↔
      ∃ e, check config code = .error e ∧ e.message = message := by
  simp only [check_error_iff]
  unfold reading readingWithin
  cases Script.Program.ofText config.limits code <;> simp

/-- A text that passes its check is read as the behaviour of a program. -/
theorem reading_of_check {config : EngineConfig} {code : String}
    (h : check config code = .ok ()) :
    ∃ program, Script.Program.ofText config.limits code = .ok program ∧
      reading config code = .ok (program.behaviour config.limits Script.Eval.endless) := by
  unfold reading readingWithin
  cases hp : Script.Program.ofText config.limits code with
  | error e =>
    rw [(check_error_iff config code e).mpr hp] at h
    cases h
  | ok program => exact ⟨program, rfl, rfl⟩

/-- The report on a text is on its run. It tells that the text is no script exactly if
that fails its check; then nothing is played. Otherwise the run takes its course: it
stops at the first event that ends it and is judged by it. -/
theorem execute_course (config : EngineConfig) {grid : Grid} {start : Coord}
    (hs : grid.findStart = .ok start) (goal : Coord) (code : String) :
    let first := Robot.init grid start goal config.maxSteps
    let played := scenes config code first
    let ended := run config code first
    execute config grid goal code = .ok (ended.report start) ∧
      (∀ message, ended.outcome = .parseError message ↔
        ∃ e, check config code = .error e ∧ e.message = message) ∧
      (∀ e, check config code = .error e →
        played = [] ∧ ended = ⟨first, .parseError e.message, 0⟩) ∧
      (check config code = .ok () → ∃ program,
        Script.Program.ofText config.limits code = .ok program ∧
          Run.Course (program.behaviour config.limits Script.Eval.endless) config.maxTicks first
            played ended) := by
  intro first played ended
  obtain ⟨hreport, hwrong, hcourse⟩ :=
    Run.execute_takes_course (reading config code) config hs goal
  refine ⟨hreport, fun message => ?_, fun e he => ?_, fun hok => ?_⟩
  · exact (Run.outcome_eq_parseError_iff _ _ _ _).trans (reading_eq_error_iff config code message)
  · exact hwrong e.message ((reading_eq_error_iff config code e.message).mpr ⟨e, he, rfl⟩)
  · obtain ⟨program, hp, hread⟩ := reading_of_check hok
    exact ⟨program, hp, hcourse _ hread⟩

/-- A script that goes ahead at every tick and declares the run over where it
cannot. -/
def hasty : String :=
  "fn start() \x7b log(\"go\"); \x7d fn update() \x7b if !move(1) \x7b done(); \x7d \x7d"

/-- The hasty script takes its course, with a start and three ticks: at the last of them
it declares the run over. -/
theorem execute_course_hasty :
    Grid.crossing.findStart = .ok ⟨0, 1⟩ ∧ check {} hasty = .ok () ∧
      execute {} .crossing ⟨0, 0⟩ hasty =
        .ok ((run {} hasty (.init .crossing ⟨0, 1⟩ ⟨0, 0⟩ 1000)).report ⟨0, 1⟩) ∧
      (∀ message, (run {} hasty (.init .crossing ⟨0, 1⟩ ⟨0, 0⟩ 1000)).outcome =
          .parseError message ↔
        ∃ e, check {} hasty = .error e ∧ e.message = message) ∧
      (scenes {} hasty (.init .crossing ⟨0, 1⟩ ⟨0, 0⟩ 1000)).map Run.Scene.stage =
        [.top, .start, .update 1, .update 2, .update 3] ∧
      ∃ program, Script.Program.ofText ({} : EngineConfig).limits hasty = .ok program ∧
        Run.Course (program.behaviour ({} : EngineConfig).limits Script.Eval.endless) 1000
          (.init .crossing ⟨0, 1⟩ ⟨0, 0⟩ 1000)
          (scenes {} hasty (.init .crossing ⟨0, 1⟩ ⟨0, 0⟩ 1000))
          (run {} hasty (.init .crossing ⟨0, 1⟩ ⟨0, 0⟩ 1000)) := by
  have hstart : Grid.crossing.findStart = .ok ⟨0, 1⟩ := rfl
  have hisOk : (check {} hasty).isOk = true := by decide +kernel
  have hcheck : check {} hasty = .ok () := by
    cases hc : check {} hasty with
    | error e =>
      rw [hc] at hisOk
      cases hisOk
    | ok done => rfl
  have hstages : (scenes {} hasty (.init .crossing ⟨0, 1⟩ ⟨0, 0⟩ 1000)).map Run.Scene.stage =
      [.top, .start, .update 1, .update 2, .update 3] := by
    decide +kernel
  obtain ⟨hreport, hparse, _, hcourse⟩ := execute_course {} hstart ⟨0, 0⟩ hasty
  exact ⟨hstart, hcheck, hreport, hparse, hstages, hcourse hcheck⟩

end Engine

end MazeRobot
