import MazeRobot.Proofs.Accounting

/-!
# Refused steps

A step is refused once the budget is used up, and from then on the robot does
nothing but talk. The refusal is remembered whatever the script makes of it:
the scene in which it happens is the last one, the run ends with the message
of the refusal, and all that is written after it are lines.
-/

namespace MazeRobot

namespace Robot

/-- The budget is used up and nothing but lines was written since. -/
structure Spent (r s : Robot) : Prop where
  /-- The budget is used up. -/
  exhausted : s.exhausted = true
  /-- No step was made. -/
  steps : s.steps = r.steps
  /-- What was written are lines. -/
  lines : ∃ lines, s.trace.toList = r.trace.toList ++ lines ∧ ∀ record ∈ lines, record.kind = .log

/-- Once the budget is used up, every elementary action leaves it so. -/
theorem Action.spent {r s t : Robot} (ha : Action s t) (h : Spent r s) : Spent r t := by
  cases ha with
  | note message =>
    obtain ⟨lines, htrace, hlog⟩ := h.lines
    refine ⟨h.exhausted, h.steps, lines ++ [⟨.log, s.position, s.heading, message⟩], ?_, ?_⟩
    · rw [toList_note, htrace, List.append_assoc]
    · intro record hr
      rcases List.mem_append.mp hr with hr | hr
      · exact hlog record hr
      · rw [List.mem_singleton.mp hr]
  | advance left free => exact absurd h.exhausted (ne_true_of_eq_false left)
  | rotate left t => exact absurd h.exhausted (ne_true_of_eq_false left)
  | finish => exact ⟨h.exhausted, h.steps, h.lines⟩
  | refuse used => exact ⟨h.exhausted, h.steps, h.lines⟩

theorem spent_self {r : Robot} (h : r.exhausted = true) : Spent r r :=
  ⟨h, rfl, [], (List.append_nil _).symm, fun _ hr => nomatch hr⟩

/-- A refusal is never forgotten. -/
theorem Action.refused {r s : Robot} (ha : Action r s) (h : r.refused = true) :
    s.refused = true := by
  cases ha with
  | refuse used => rfl
  | _ => exact h

/-- A move that is refused on its way leaves the refusal behind. -/
theorem moveTimes_refusal {count : Nat} {r : Robot} {refusal : Refusal}
    (h : (moveTimes count r).2 = .error refusal) :
    (moveTimes count r).1.refused = true ∧ (moveTimes count r).1.exhausted = true := by
  induction count generalizing r with
  | zero => cases h
  | succ count ih =>
    rw [moveTimes] at h ⊢
    split at h
    · next used =>
      rw [if_pos used]
      exact ⟨rfl, used⟩
    · next left =>
      rw [if_neg left]
      split at h
      · next free =>
        rw [if_pos free]
        exact ih h
      · cases h

theorem moveForward_refusal {r : Robot} {count : Int64} {refusal : Refusal}
    (h : (r.moveForward count).2 = .error refusal) :
    (r.moveForward count).1.refused = true ∧ (r.moveForward count).1.exhausted = true := by
  unfold moveForward at h ⊢
  split at h
  · cases h
  · next hc =>
    rw [if_neg hc]
    exact moveTimes_refusal h

theorem turn_refusal {r : Robot} {t : Turn} {refusal : Refusal}
    (h : (r.turn t).2 = .error refusal) :
    (r.turn t).1.refused = true ∧ (r.turn t).1.exhausted = true := by
  unfold turn at h ⊢
  split at h
  · next used =>
    rw [if_pos used]
    exact ⟨rfl, used⟩
  · cases h

theorem turnNamed_refusal {r : Robot} {word : String} {refusal : Refusal}
    (h : (r.turnNamed word).2 = .error refusal) :
    (r.turnNamed word).1.refused = true ∧ (r.turnNamed word).1.exhausted = true := by
  unfold turnNamed at h ⊢
  cases hw : Turn.ofWord? word with
  | some t =>
    rw [hw] at h
    exact turn_refusal h
  | none =>
    rw [hw] at h
    cases h

/-- A refused step leaves the refusal and an exhausted robot behind. -/
theorem answer_refusal {r : Robot} {c : Call} {refusal : Refusal}
    (h : c.refusal? (r.answer c).2 = some refusal) :
    (r.answer c).1.refused = true ∧ (r.answer c).1.exhausted = true := by
  cases c with
  | move count => exact moveForward_refusal (Call.refusal?_move.mp h)
  | turn word => exact turnNamed_refusal (Call.refusal?_turn.mp h)
  | _ => cases h

end Robot

namespace Run

open Robot

/-- A refusal in a scene is remembered at its end, and the budget stays used
up from there on. -/
theorem Scene.spent_of_refusal {scene : Scene} {e : Exchange} {refusal : Refusal}
    (he : e ∈ scene.exchanges) (hr : e.refusal? = some refusal) :
    scene.after.refused = true ∧ Spent e.after scene.after := by
  obtain ⟨hrefused, hexhausted⟩ := answer_refusal hr
  have hacts : Acts e.after scene.after := (Dialogue.acts_of_mem_exchanges he).2
  exact ⟨hacts.keep Action.refused hrefused, hacts.keep Action.spent (spent_self hexhausted)⟩

/-- A dialogue that leaves a refusal behind ends the run, however it ended
itself. -/
theorem phase_of_refused {α : Type} {d : Dialogue (Except Stop α)} {r : Robot}
    (h : (d.play r).1.refused = true) :
    phase d r = ((d.play r).1, .error (.runtimeError (ceilingMessage (d.play r).1))) := by
  rw [phase]
  exact if_pos h

/-- If a scene that leaves a refusal behind is among a scene and those after
it, it is that scene and there are none, or it is one of those. -/
theorem sceneThen_of_refused {α : Type} {stage : Stage} {d : Dialogue (Except Stop α)}
    {r : Robot} {next : α → Robot → List Scene} {earlier later : List Scene} {scene : Scene}
    (h : sceneThen stage d r next = earlier ++ scene :: later)
    (hr : scene.after.refused = true) :
    (later = [] ∧ phase d r = (scene.after, .error (.runtimeError (ceilingMessage scene.after)))) ∨
      ∃ s a rest, phase d r = (s, .ok a) ∧ next a s = rest ++ scene :: later := by
  cases earlier with
  | nil =>
    obtain ⟨rfl, hlater⟩ := List.cons.inj h
    rw [Scene.after_of] at hr ⊢
    have hp := phase_of_refused hr
    rw [hp] at hlater
    exact .inl ⟨hlater.symm, hp⟩
  | cons first rest =>
    obtain ⟨_, hrest⟩ := List.cons.inj h
    split at hrest
    · cases rest <;> cases hrest
    · next s a hp => exact .inr ⟨s, a, rest, hp, hrest⟩

/-- A scene of the ticks that leaves a refusal behind is the last one and ends
the run. -/
theorem ticking_of_refused {σ : Type} {update : σ → Dialogue (Except Stop σ)}
    {remaining number : Nat} {count : UInt32} {memory : σ} {r : Robot}
    {earlier later : List Scene} {scene : Scene}
    (h : tickingScenes update remaining number memory r = earlier ++ scene :: later)
    (hr : scene.after.refused = true) :
    later = [] ∧ (ticking update remaining count memory r).outcome =
      .runtimeError (ceilingMessage scene.after) := by
  induction remaining generalizing number count memory r earlier with
  | zero => cases earlier <;> cases h
  | succ remaining ih =>
    rw [tickingScenes] at h
    rw [ticking]
    split at h
    · cases earlier <;> cases h
    · next hd =>
      rw [if_neg hd]
      rcases sceneThen_of_refused h hr with ⟨hlater, hp⟩ | ⟨s, a, rest, hp, hnext⟩
      · rw [hp]
        exact ⟨hlater, rfl⟩
      · rw [hp]
        dsimp only
        split at hnext
        · cases rest <;> cases hnext
        · next hg =>
          rw [if_neg hg]
          exact ih hnext

theorem ticks_of_refused {σ : Type} {b : Behaviour σ} {maxTicks : UInt32} {memory : σ} {r : Robot}
    {earlier later : List Scene} {scene : Scene}
    (h : ticksScenes b maxTicks memory r = earlier ++ scene :: later)
    (hr : scene.after.refused = true) :
    later = [] ∧ (ticks b maxTicks memory r).outcome =
      .runtimeError (ceilingMessage scene.after) := by
  unfold ticksScenes at h
  unfold ticks
  cases hu : b.update with
  | none =>
    rw [hu] at h
    cases earlier <;> cases h
  | some update =>
    rw [hu] at h
    exact ticking_of_refused h hr

/-- A scene that leaves a refusal behind is the last one of its run and ends
it. -/
theorem drive_of_refused {σ : Type} {b : Behaviour σ} {maxTicks : UInt32} {r : Robot}
    {earlier later : List Scene} {scene : Scene}
    (h : scenes b maxTicks r = earlier ++ scene :: later) (hr : scene.after.refused = true) :
    later = [] ∧ (drive b maxTicks r).outcome = .runtimeError (ceilingMessage scene.after) := by
  rw [scenes] at h
  unfold drive opening
  rcases sceneThen_of_refused h hr with ⟨hlater, hp⟩ | ⟨s, _, rest, hp, hnext⟩
  · rw [hp]
    exact ⟨hlater, rfl⟩
  · rw [hp]
    dsimp only
    cases hb : b.start with
    | none =>
      rw [hb] at hnext
      exact ticks_of_refused hnext hr
    | some start =>
      rw [hb] at hnext
      dsimp only
      rcases sceneThen_of_refused hnext hr with ⟨hlater, ht⟩ | ⟨t, memory, more, ht, hmore⟩
      · rw [ht]
        exact ⟨hlater, rfl⟩
      · rw [ht]
        exact ticks_of_refused hmore hr

/-- A robot whose budget is used up has made all steps of it. -/
theorem steps_eq_maxSteps {r : Robot} (hc : Counted r) (hx : r.exhausted = true) :
    r.steps = r.maxSteps := by
  apply UInt32.toNat_inj.mp
  have hle := of_decide_eq_true hx
  exact Nat.le_antisymm hc.within (UInt32.le_iff_toNat_le.mp hle)

/-- A run in which a step was refused in an exchange `e`: `played` are its scenes as far
as the one of the exchange, and `later` are those after it. -/
structure Breached (maxSteps : UInt32) (start : Coord) (played : List Scene) (e : Exchange)
    (later : List Scene) (ended : Ended) : Prop where
  /-- There is no scene after the refusal. -/
  last : later = []
  /-- The ticks are those as far as the refusal. -/
  ticks : (ended.report start).ticks.toNat = updates played
  /-- The run fails with the refusal. -/
  outcome : (ended.report start).outcome =
    .runtimeError s!"Maximum steps exceeded ({maxSteps.toNat})"
  /-- It is no success. -/
  completed : (ended.report start).result.completed = false
  /-- The budget is used up. -/
  steps : (ended.report start).result.steps = maxSteps
  /-- What is written after the refusal are lines. -/
  lines : ∃ lines, (ended.report start).trace.toList = e.after.trace.toList ++ lines ∧
    ∀ record ∈ lines, record.kind = .log
  /-- The last of them tells the refusal. -/
  message : ∃ place heading, (ended.report start).trace.last? = some ⟨.log, place, heading,
    "❌ Error: " ++ s!"Maximum steps exceeded ({maxSteps.toNat})"⟩

/-- A run that gives heed to refusals, from its first robot to its end. -/
structure Heeds (maxSteps : UInt32) (start : Coord) (first : Robot) (played : List Scene)
    (ended : Ended) : Prop where
  /-- The scenes lead from the first robot to the one with which the run ended. -/
  follow : Follow first played ended.robot
  /-- Wherever a step is refused, the run is that of a breach. -/
  breached : ∀ earlier scene later, played = earlier ++ scene :: later →
    ∀ e ∈ scene.exchanges, ∀ refusal, e.refusal? = some refusal →
      Breached maxSteps start (earlier ++ [scene]) e later ended

/-- A run that ended with a refusal, if `r` is the robot right after it: what is told of
its outcome, its result and its last lines. -/
theorem report_of_refused {e : Ended} {r : Robot} {g : Grid} {start goal : Coord}
    {maxSteps : UInt32} (hacts : Acts (.init g start goal maxSteps) e.robot)
    (hspent : Spent r e.robot) (ho : e.outcome = .runtimeError (ceilingMessage e.robot)) :
    (e.report start).outcome = .runtimeError (Refusal.message ⟨maxSteps⟩) ∧
      (e.report start).result.completed = false ∧ (e.report start).result.steps = maxSteps ∧
      (∃ lines, (e.report start).trace.toList = r.trace.toList ++ lines ∧
        ∀ record ∈ lines, record.kind = .log) ∧
      ∃ place heading, (e.report start).trace.last? =
        some ⟨.log, place, heading, "❌ Error: " ++ Refusal.message ⟨maxSteps⟩⟩ := by
  have hmax : e.robot.maxSteps = maxSteps := hacts.task.2.2
  rw [ceilingMessage, hmax] at ho
  have hcounted := hacts.keep Action.counted (counted_init g start goal maxSteps)
  refine ⟨ho, ?_, ?_, ((acts_closed e).keep Action.spent hspent).lines, ?_⟩
  · rw [Ended.report, Ended.succeeded, ho]
    rfl
  · rw [Ended.report, Ended.steps, ho, ← hmax]
    exact steps_eq_maxSteps hcounted hspent.exhausted
  · rw [Ended.report, last?_closed, Ended.lastLine, ho]
    exact ⟨_, _, rfl⟩

section Reading

variable {σ : Type} (reading : Except String (Behaviour σ))

/-- A scene that leaves a refusal behind is the last one of its run and ends it,
whatever a text was read as. -/
theorem attempt_of_refused {maxTicks : UInt32} {r : Robot} {earlier later : List Scene}
    {scene : Scene} (h : scenesOf reading maxTicks r = earlier ++ scene :: later)
    (hr : scene.after.refused = true) :
    later = [] ∧ (attempt reading maxTicks r).robot = scene.after ∧
      (attempt reading maxTicks r).outcome = .runtimeError (ceilingMessage scene.after) := by
  have hfollow := follow_scenesOf reading maxTicks r
  rw [h] at hfollow
  cases reading with
  | error message => cases earlier <;> cases h
  | ok b =>
    obtain ⟨rfl, ho⟩ := drive_of_refused h hr
    exact ⟨rfl, hfollow.last.symm, ho⟩

/-- Whatever a text was read as, the report is on the run, and that gives heed to
refusals. -/
theorem execute_breached (config : EngineConfig) {grid : Grid} {start : Coord}
    (hs : grid.findStart = .ok start) (goal : Coord) :
    let first := Robot.init grid start goal config.maxSteps
    let played := scenesOf reading config.maxTicks first
    let ended := attempt reading config.maxTicks first
    execute config reading grid goal = .ok (ended.report start) ∧
      Heeds config.maxSteps start first played ended := by
  intro first played ended
  refine ⟨execute_of_findStart reading config hs goal, follow_scenesOf reading _ first, ?_⟩
  intro earlier scene later hscene e he refusal hr
  obtain ⟨hrefused, hspent⟩ := Scene.spent_of_refusal he hr
  obtain ⟨rfl, hrobot, ho⟩ := attempt_of_refused reading hscene hrefused
  have hticks : ended.ticks.toNat = updates played := ticks_attempt reading config.maxTicks first
  rw [hscene] at hticks
  -- The run ends with the robot that its last scene leaves.
  rw [← hrobot] at hspent ho
  obtain ⟨houtcome, hcompleted, hsteps, hlines, hmessage⟩ :=
    report_of_refused (acts_attempt _ _ _) hspent ho
  exact ⟨rfl, hticks, houtcome, hcompleted, hsteps, hlines, hmessage⟩

end Reading

end Run

namespace Engine

/-- The scenes of the run of a text lead from the first robot to the last one, that of
the report. If a step is refused in one of them, that scene is the last one, the run
fails with the refusal after all steps of the budget, and nothing but lines is written
after it, the last of them the message of the refusal. -/
theorem execute_of_refusal (config : EngineConfig) {grid : Grid} {start : Coord}
    (hs : grid.findStart = .ok start) (goal : Coord) (code : String) :
    let first := Robot.init grid start goal config.maxSteps
    let played := scenes config code first
    let ended := run config code first
    execute config grid goal code = .ok (ended.report start) ∧
      Run.Heeds config.maxSteps start first played ended :=
  Run.execute_breached (reading config code) config hs goal

/-- A script that catches the refusal and then fails with something else. -/
def stubborn : String :=
  "fn update() \x7b try \x7b turn(\"left\"); turn(\"left\"); \x7d catch \x7b log(\"no\"); \x7d" ++
    " throw \"other\"; \x7d"

/-- The stubborn script is refused its second step, and its run fails with the
refusal. -/
theorem execute_of_refusal_stubborn :
    let first := Robot.init .crossing ⟨0, 1⟩ ⟨2, 2⟩ 1
    let played := scenes { maxSteps := 1 } stubborn first
    let ended := run { maxSteps := 1 } stubborn first
    Grid.crossing.findStart = .ok ⟨0, 1⟩ ∧
      execute { maxSteps := 1 } .crossing ⟨2, 2⟩ stubborn = .ok (ended.report ⟨0, 1⟩) ∧
      Run.Heeds 1 ⟨0, 1⟩ first played ended ∧
      ∃ (earlier later : List Run.Scene) (scene : Run.Scene) (e : Exchange) (refusal : Refusal),
        played = earlier ++ scene :: later ∧ e ∈ scene.exchanges ∧
          e.refusal? = some refusal ∧
          Run.Breached 1 ⟨0, 1⟩ (earlier ++ [scene]) e later ended := by
  intro first played ended
  have hany : played.any (fun scene => scene.exchanges.any fun e => e.refusal?.isSome) = true := by
    decide +kernel
  obtain ⟨scene, hmem, hsome⟩ := List.any_eq_true.mp hany
  obtain ⟨e, he, hr⟩ := List.any_eq_true.mp hsome
  obtain ⟨refusal, hr⟩ := Option.isSome_iff_exists.mp hr
  obtain ⟨earlier, later, hscene⟩ := List.append_of_mem hmem
  have hstart : Grid.crossing.findStart = .ok ⟨0, 1⟩ := rfl
  obtain ⟨hreport, hheeds⟩ := execute_of_refusal { maxSteps := 1 } hstart ⟨2, 2⟩ stubborn
  exact ⟨hstart, hreport, hheeds, earlier, later, scene, e, refusal, hscene, he, hr,
    hheeds.breached earlier scene later hscene e he refusal hr⟩

end Engine

end MazeRobot
