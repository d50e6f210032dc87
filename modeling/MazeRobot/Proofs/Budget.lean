import MazeRobot.Proofs.Accounting

/-!
# Budgets that are not used up

A run notices a budget only where it ends. As long as no step is refused, a
robot with more steps to make does the same and replies the same, and a run
that did not give up for want of ticks is the same with more of them. So a
report tells nothing of budgets that were not used up.
-/

namespace MazeRobot

namespace Robot

/-- The robot with another step budget. -/
def withBudget (r : Robot) (maxSteps : UInt32) : Robot :=
  { r with maxSteps := maxSteps }

@[simp] theorem withBudget_done (r : Robot) (maxSteps : UInt32) :
    (r.withBudget maxSteps).done = r.done := rfl

@[simp] theorem withBudget_refused (r : Robot) (maxSteps : UInt32) :
    (r.withBudget maxSteps).refused = r.refused := rfl

@[simp] theorem withBudget_atGoal (r : Robot) (maxSteps : UInt32) :
    (r.withBudget maxSteps).atGoal = r.atGoal := rfl

/-- What a robot does comes out the same with another step budget, and no step
of it is refused. -/
structure Unhindered {α : Type} (maxSteps : UInt32) (act : Robot → Robot × α) (r : Robot) :
    Prop where
  /-- Nothing but the budget is another one. -/
  same : act (r.withBudget maxSteps) = ((act r).1.withBudget maxSteps, (act r).2)
  /-- There is no refusal behind it that was not there before. -/
  refused : (act r).1.refused = r.refused

variable {r : Robot} {maxSteps : UInt32}

/-- Where a budget is left, a larger one is. -/
theorem exhausted_withBudget (hle : r.maxSteps ≤ maxSteps) (left : r.exhausted = false) :
    (r.withBudget maxSteps).exhausted = false := by
  rw [exhausted_eq_false_iff] at left ⊢
  exact Nat.lt_of_lt_of_le left (UInt32.le_iff_toNat_le.mp hle)

theorem moveTimes_of_free {count : Nat} (left : r.exhausted = false)
    (free : r.grid.isPassable (r.project .front) = true) :
    moveTimes (count + 1) r = moveTimes count r.advance := by
  rw [moveTimes, if_neg (ne_true_of_eq_false left), if_pos free]

theorem moveTimes_of_blocked {count : Nat} (left : r.exhausted = false)
    (blocked : r.grid.isPassable (r.project .front) = false) :
    moveTimes (count + 1) r = (r.note blockedMessage, .ok false) := by
  rw [moveTimes, if_neg (ne_true_of_eq_false left), if_neg (ne_true_of_eq_false blocked)]

/-- A move that is not refused on its way needs no more than the budget. -/
theorem unhindered_moveTimes (hle : r.maxSteps ≤ maxSteps) {count : Nat} {went : Bool}
    (h : (moveTimes count r).2 = .ok went) : Unhindered maxSteps (moveTimes count) r := by
  induction count generalizing r with
  | zero => exact ⟨rfl, rfl⟩
  | succ count ih =>
    cases left : r.exhausted with
    | true =>
      rw [moveTimes, if_pos left] at h
      cases h
    | false =>
      have still := exhausted_withBudget hle left
      cases free : r.grid.isPassable (r.project .front) with
      | true =>
        have hfirst : moveTimes (count + 1) r = moveTimes count r.advance :=
          moveTimes_of_free left free
        have hthere : moveTimes (count + 1) (r.withBudget maxSteps) =
            moveTimes count (r.advance.withBudget maxSteps) :=
          moveTimes_of_free still free
        rw [hfirst] at h
        have hrest := ih (r := r.advance) hle h
        constructor
        · rw [hthere, hfirst, hrest.same]
        · rw [hfirst, hrest.refused]
          rfl
      | false =>
        have hfirst : moveTimes (count + 1) r = (r.note blockedMessage, .ok false) :=
          moveTimes_of_blocked left free
        have hthere : moveTimes (count + 1) (r.withBudget maxSteps) =
            ((r.withBudget maxSteps).note blockedMessage, .ok false) :=
          moveTimes_of_blocked still free
        constructor
        · rw [hthere, hfirst]
          rfl
        · rw [hfirst]
          rfl

theorem unhindered_moveForward (hle : r.maxSteps ≤ maxSteps) {count : Int64} {went : Bool}
    (h : (r.moveForward count).2 = .ok went) :
    Unhindered maxSteps (fun s => s.moveForward count) r := by
  unfold moveForward at h ⊢
  split at h
  · next hc =>
    simp only [if_pos hc]
    exact ⟨rfl, rfl⟩
  · next hc =>
    simp only [if_neg hc]
    exact unhindered_moveTimes hle h

/-- A turn that is not refused needs no more than the budget. -/
theorem unhindered_turn (hle : r.maxSteps ≤ maxSteps) {t : Turn} (h : (r.turn t).2 = .ok ()) :
    Unhindered maxSteps (fun s => s.turn t) r := by
  cases left : r.exhausted with
  | true =>
    rw [turn, if_pos left] at h
    cases h
  | false =>
    have hturn {s : Robot} (hs : s.exhausted = false) : s.turn t = (s.rotate t, .ok ()) :=
      if_neg (ne_true_of_eq_false hs)
    constructor
    · rw [hturn (exhausted_withBudget hle left), hturn left]
      rfl
    · rw [hturn left]
      rfl

theorem unhindered_turnNamed (hle : r.maxSteps ≤ maxSteps) {word : String}
    (h : (r.turnNamed word).2 = .ok ()) : Unhindered maxSteps (fun s => s.turnNamed word) r := by
  unfold turnNamed at h ⊢
  cases hw : Turn.ofWord? word with
  | some t =>
    rw [hw] at h
    exact unhindered_turn hle h
  | none => exact ⟨rfl, rfl⟩

/-- Looking somewhere needs no budget if what is read there does not. -/
theorem unhindered_look {α : Type} {read : Robot → Relative → α}
    (hread : ∀ side, read (r.withBudget maxSteps) side = read r side) (word : String)
    (preset : α) : Unhindered maxSteps (fun s => s.look word preset read) r := by
  unfold look relativeNamed
  cases Relative.ofWord? word with
  | some side => exact ⟨congrArg (Prod.mk _) (hread side), rfl⟩
  | none => exact ⟨rfl, rfl⟩

/-- An answer that is no refusal is the same with a larger budget. -/
theorem unhindered_answer (hle : r.maxSteps ≤ maxSteps) {c : Call}
    (h : c.refusal? (r.answer c).2 = none) : Unhindered maxSteps (fun s => s.answer c) r := by
  cases c with
  | move count =>
    cases hm : (r.moveForward count).2 with
    | error refusal => exact absurd (h.symm.trans (Call.refusal?_move.mpr hm)) nofun
    | ok went => exact unhindered_moveForward hle hm
  | turn word =>
    cases ht : (r.turnNamed word).2 with
    | error refusal => exact absurd (h.symm.trans (Call.refusal?_turn.mpr ht)) nofun
    | ok => exact unhindered_turnNamed hle ht
  | isEmpty word =>
    cases word with
    | none => exact ⟨rfl, rfl⟩
    | some word =>
      simp only [answer, neighbourNamed]
      cases Relative.ofNeighbourWord? word <;> exact ⟨rfl, rfl⟩
  | isGoal word =>
    cases word with
    | none => exact ⟨rfl, rfl⟩
    | some word => exact unhindered_look (fun _ => rfl) word _
  | hasVisited word =>
    cases word with
    | none => exact ⟨rfl, rfl⟩
    | some word => exact unhindered_look (fun _ => rfl) word _
  | visitCount word =>
    cases word with
    | none => exact ⟨rfl, rfl⟩
    | some word => exact unhindered_look (fun _ => rfl) word _
  | _ => exact ⟨rfl, rfl⟩

end Robot

open Robot

variable {r : Robot} {maxSteps : UInt32}

/-- A dialogue in which no step is refused is the same with a larger budget. -/
theorem Dialogue.unhindered_play {α : Type} {d : Dialogue α} (hle : r.maxSteps ≤ maxSteps)
    (h : ∀ e ∈ d.exchanges r, e.refusal? = none) : Unhindered maxSteps d.play r := by
  induction d generalizing r with
  | done a => exact ⟨rfl, rfl⟩
  | ask call next ih =>
    obtain ⟨hcall, hnext⟩ := List.forall_mem_cons.mp h
    have hanswer : Unhindered maxSteps (fun s => s.answer call) r := unhindered_answer hle hcall
    have hkept : (r.answer call).1.maxSteps ≤ maxSteps := by
      rwa [(acts_answer r call).task.2.2]
    have hrest := ih _ hkept hnext
    constructor
    · rw [play, hanswer.same]
      exact hrest.same
    · exact hrest.refused.trans hanswer.refused

namespace Run

/-- No step is refused in a scene. -/
def Scene.Unrefused (scene : Scene) : Prop :=
  ∀ e ∈ scene.exchanges, e.refusal? = none

/-- What holds of a scene and those after it holds of the first one, and of
the others if it ends well. -/
theorem forall_sceneThen {α : Type} {stage : Stage} {d : Dialogue (Except Stop α)} {r : Robot}
    {next : α → Robot → List Scene} {P : Scene → Prop}
    (h : ∀ scene ∈ sceneThen stage d r next, P scene) :
    P (.of stage d r) ∧ ∀ s a, phase d r = (s, .ok a) → ∀ scene ∈ next a s, P scene := by
  obtain ⟨hfirst, hrest⟩ := List.forall_mem_cons.mp h
  refine ⟨hfirst, fun s a hp => ?_⟩
  rw [hp] at hrest
  exact hrest

/-- Where no refusal is left behind, a phase ends as its dialogue does. -/
theorem phase_of_unrefused {α : Type} {d : Dialogue (Except Stop α)}
    (h : (d.play r).1.refused = false) :
    phase d r =
      ((d.play r).1, (d.play r).2.mapError fun stop => .runtimeError stop.message) := by
  rw [phase]
  rcases hp : d.play r with ⟨s, result⟩
  rw [hp] at h
  cases result <;> exact if_neg (ne_true_of_eq_false h)

/-- A phase in which no step is refused is the same with a larger budget. -/
theorem unhindered_phase {α : Type} {stage : Stage} {d : Dialogue (Except Stop α)}
    (hle : r.maxSteps ≤ maxSteps) (hr : r.refused = false) (h : (Scene.of stage d r).Unrefused) :
    Unhindered maxSteps (phase d) r := by
  rw [Scene.Unrefused, Scene.exchanges_of] at h
  have hplay := Dialogue.unhindered_play hle h
  have hafter : (d.play r).1.refused = false := hplay.refused.trans hr
  have hthere : (d.play (r.withBudget maxSteps)).1.refused = false := by
    rw [hplay.same]
    exact (withBudget_refused _ _).trans hafter
  constructor
  · rw [phase_of_unrefused hthere, phase_of_unrefused hafter, hplay.same]
  · rw [phase_robot]
    exact hplay.refused

/-- An ended run of a robot with another step budget. -/
def Ended.withBudget (e : Ended) (maxSteps : UInt32) : Ended :=
  { e with robot := e.robot.withBudget maxSteps }

/-- Reports do not tell the step budget. -/
theorem Ended.report_withBudget (e : Ended) (maxSteps : UInt32) (start : Coord) :
    (e.withBudget maxSteps).report start = e.report start := by
  obtain ⟨robot, outcome, ticks⟩ := e
  cases outcome <;> rfl

theorem Ended.outcome_report (e : Ended) (start : Coord) :
    (e.report start).outcome = e.outcome := rfl

/-- What is left of the budget after a phase in which nothing was refused, and
that nothing was. -/
theorem left_of_phase {α : Type} {d : Dialogue (Except Stop α)} {s : Robot}
    {result : Except Outcome α} (hp : phase d r = (s, result)) (hle : r.maxSteps ≤ maxSteps)
    (hr : r.refused = false) (hphase : Unhindered maxSteps (phase d) r) :
    s.maxSteps ≤ maxSteps ∧ s.refused = false := by
  have hrefused := hphase.refused
  rw [hp] at hrefused
  rw [(acts_of_phase hp).task.2.2]
  exact ⟨hle, hrefused.trans hr⟩

/-- Ticks in which no step is refused are the same with a larger budget. -/
theorem ticking_withBudget {σ : Type} {update : σ → Dialogue (Except Stop σ)}
    {remaining number : Nat} {count : UInt32} {memory : σ} (hle : r.maxSteps ≤ maxSteps)
    (hr : r.refused = false)
    (h : ∀ scene ∈ tickingScenes update remaining number memory r, scene.Unrefused) :
    ticking update remaining count memory (r.withBudget maxSteps) =
      (ticking update remaining count memory r).withBudget maxSteps := by
  induction remaining generalizing number count memory r with
  | zero =>
    rw [ticking, ticking, withBudget_done]
    split <;> rfl
  | succ remaining ih =>
    rw [tickingScenes] at h
    rw [ticking, ticking, withBudget_done]
    split
    · rfl
    · next hd =>
      rw [if_neg hd] at h
      obtain ⟨hfirst, hrest⟩ := forall_sceneThen h
      have hphase := unhindered_phase hle hr hfirst
      rw [hphase.same]
      rcases hp : phase (update memory) r with ⟨s, result⟩
      cases result with
      | error outcome => rfl
      | ok after =>
        obtain ⟨hleft, hnone⟩ := left_of_phase hp hle hr hphase
        have hscenes := hrest s after hp
        dsimp only
        rw [withBudget_atGoal]
        split
        · rfl
        · next hg =>
          rw [if_neg hg] at hscenes
          exact ih hleft hnone hscenes

theorem ticks_withBudget {σ : Type} {b : Behaviour σ} {maxTicks : UInt32} {memory : σ}
    (hle : r.maxSteps ≤ maxSteps) (hr : r.refused = false)
    (h : ∀ scene ∈ ticksScenes b maxTicks memory r, scene.Unrefused) :
    ticks b maxTicks memory (r.withBudget maxSteps) =
      (ticks b maxTicks memory r).withBudget maxSteps := by
  unfold ticksScenes at h
  unfold ticks
  cases hu : b.update with
  | none => rfl
  | some update =>
    rw [hu] at h
    exact ticking_withBudget hle hr h

/-- A run in which no step is refused is the same with a larger budget,
however it ends. -/
theorem drive_withBudget {σ : Type} {b : Behaviour σ} {maxTicks : UInt32}
    (hle : r.maxSteps ≤ maxSteps) (hr : r.refused = false)
    (h : ∀ scene ∈ scenes b maxTicks r, scene.Unrefused) :
    drive b maxTicks (r.withBudget maxSteps) = (drive b maxTicks r).withBudget maxSteps := by
  obtain ⟨htop, hrest⟩ := forall_sceneThen h
  have hphase := unhindered_phase hle hr htop
  unfold drive opening
  rw [hphase.same]
  rcases hp : phase b.top r with ⟨s, result⟩
  cases result with
  | error outcome => rfl
  | ok =>
    obtain ⟨hleft, hnone⟩ := left_of_phase hp hle hr hphase
    have hscenes := hrest s () hp
    dsimp only
    cases hb : b.start with
    | none =>
      rw [hb] at hscenes
      exact ticks_withBudget hleft hnone hscenes
    | some start =>
      rw [hb] at hscenes
      obtain ⟨hstart, hticks⟩ := forall_sceneThen hscenes
      have hphase := unhindered_phase hleft hnone hstart
      dsimp only
      rw [hphase.same]
      rcases hp : phase (start b.memory) s with ⟨t, result⟩
      cases result with
      | error outcome => rfl
      | ok memory =>
        obtain ⟨hleft, hnone⟩ := left_of_phase hp hleft hnone hphase
        exact ticks_withBudget hleft hnone (hticks t memory hp)

theorem ticking_of_done {σ : Type} (update : σ → Dialogue (Except Stop σ)) (remaining : Nat)
    (count : UInt32) (memory : σ) (hd : r.done = true) :
    ticking update remaining count memory r = ⟨r, .completed .done, count⟩ := by
  cases remaining with
  | zero => rw [ticking, if_pos hd]
  | succ remaining => rw [ticking, if_pos hd]

/-- Ticks that are enough are the same as more of them. -/
theorem ticking_of_le {σ : Type} {update : σ → Dialogue (Except Stop σ)} {remaining more : Nat}
    {count : UInt32} {memory : σ} (hle : remaining ≤ more)
    (h : ∀ n, (ticking update remaining count memory r).outcome ≠ .stepLimitExceeded n) :
    ticking update more count memory r = ticking update remaining count memory r := by
  induction remaining generalizing more count memory r with
  | zero =>
    cases hd : r.done with
    | true => rw [ticking_of_done _ _ _ _ hd, ticking_of_done _ _ _ _ hd]
    | false =>
      -- Without a tick left, such a run gives up at once.
      rw [ticking, if_neg (ne_true_of_eq_false hd)] at h
      exact absurd rfl (h count)
  | succ remaining ih =>
    obtain ⟨fewer, rfl⟩ : ∃ fewer, more = fewer + 1 := ⟨more - 1, by omega⟩
    rw [ticking] at h
    rw [ticking, ticking]
    split
    · rfl
    · next hd =>
      rw [if_neg hd] at h
      rcases hp : phase (update memory) r with ⟨s, result⟩
      rw [hp] at h
      cases result with
      | error outcome => rfl
      | ok after =>
        dsimp only at h ⊢
        split
        · rfl
        · next hg =>
          rw [if_neg hg] at h
          exact ih (Nat.le_of_succ_le_succ hle) h

/-- A run that did not give up is the same with more ticks. -/
theorem drive_of_le {σ : Type} {b : Behaviour σ} {maxTicks more : UInt32} (hle : maxTicks ≤ more)
    (h : ∀ n, (drive b maxTicks r).outcome ≠ .stepLimitExceeded n) :
    drive b more r = drive b maxTicks r := by
  unfold drive at h ⊢
  rcases ho : opening b r with ⟨s, result⟩
  rw [ho] at h
  cases result with
  | error outcome => rfl
  | ok memory =>
    dsimp only at h ⊢
    unfold ticks at h ⊢
    cases hu : b.update with
    | none => rfl
    | some update =>
      rw [hu] at h
      exact ticking_of_le (UInt32.le_iff_toNat_le.mp hle) h

section Reading

variable {σ : Type} {reading : Except String (Behaviour σ)}

/-- A run in which no step is refused is the same with a larger step budget, whatever
a text was read as. -/
theorem attempt_withBudget {maxTicks : UInt32} (hle : r.maxSteps ≤ maxSteps)
    (hr : r.refused = false) (h : ∀ scene ∈ scenesOf reading maxTicks r, scene.Unrefused) :
    attempt reading maxTicks (r.withBudget maxSteps) =
      (attempt reading maxTicks r).withBudget maxSteps := by
  cases reading with
  | error message => rfl
  | ok b => exact drive_withBudget hle hr h

/-- A run that did not give up is the same with more ticks. -/
theorem attempt_of_le {maxTicks more : UInt32} (hle : maxTicks ≤ more)
    (h : ∀ n, (attempt reading maxTicks r).outcome ≠ .stepLimitExceeded n) :
    attempt reading more r = attempt reading maxTicks r := by
  cases reading with
  | error message => rfl
  | ok b => exact drive_of_le hle h

/-- If no step is refused in a run and it does not give up, its report is the same under
all budgets of steps and ticks that are no lower, whatever a text was read as. -/
theorem execute_of_le (config : EngineConfig) {grid : Grid} {start : Coord}
    (hs : grid.findStart = .ok start) (goal : Coord)
    (hunrefused : ∀ scene ∈
      scenesOf reading config.maxTicks (.init grid start goal config.maxSteps),
      ∀ e ∈ scene.exchanges, e.refusal? = none)
    (hended : ∀ report n, execute config reading grid goal = .ok report →
      report.outcome ≠ .stepLimitExceeded n)
    {maxSteps maxTicks : UInt32} (hsteps : config.maxSteps ≤ maxSteps)
    (hticks : config.maxTicks ≤ maxTicks) :
    ∃ report, execute config reading grid goal = .ok report ∧
      execute { config with maxSteps := maxSteps, maxTicks := maxTicks } reading grid goal =
        .ok report := by
  have hfirst := execute_of_findStart reading config hs goal
  refine ⟨_, hfirst, ?_⟩
  -- The steps come first: with more of them, the run ends in the same way.
  have hlarger : attempt reading config.maxTicks (.init grid start goal maxSteps) =
      (attempt reading config.maxTicks (.init grid start goal config.maxSteps)).withBudget
        maxSteps :=
    attempt_withBudget hsteps rfl hunrefused
  have hmore : attempt reading maxTicks (.init grid start goal maxSteps) =
      attempt reading config.maxTicks (.init grid start goal maxSteps) := by
    refine attempt_of_le hticks fun n => ?_
    rw [hlarger]
    exact hended _ n hfirst
  rw [execute_of_findStart _ _ hs, hmore, hlarger, Ended.report_withBudget]

end Reading

end Run

namespace Engine

/-- If no step is refused in a run and it does not give up, its report is the
same under all limits of steps and ticks that are no lower. -/
theorem execute_of_budgets_le (config : EngineConfig) {grid : Grid} {start : Coord}
    (hs : grid.findStart = .ok start) (goal : Coord) (code : String)
    (hunrefused : ∀ scene ∈ scenes config code (.init grid start goal config.maxSteps),
      ∀ e ∈ scene.exchanges, e.refusal? = none)
    (hended : ∀ report n, execute config grid goal code = .ok report →
      report.outcome ≠ .stepLimitExceeded n)
    {maxSteps maxTicks : UInt32} (hsteps : config.maxSteps ≤ maxSteps)
    (hticks : config.maxTicks ≤ maxTicks) :
    ∃ report, execute config grid goal code = .ok report ∧
      execute { config with maxSteps := maxSteps, maxTicks := maxTicks } grid goal code =
        .ok report :=
  -- Of a configuration a text is read with the limits on the script alone.
  Run.execute_of_le config hs goal hunrefused hended hsteps hticks

/-- A script that goes straight on and turns right where the way ends. -/
def straight : String :=
  "fn update() \x7b if !move(1) \x7b turn(\"right\"); \x7d \x7d"

/-- Budgets of four steps and four ticks. -/
def tight : EngineConfig := { maxSteps := 4, maxTicks := 4 }

/-- Four steps and four ticks lead the script to the goal of the small grid,
with one call that is stopped on its way, and with more of both it does no
more. -/
theorem execute_of_budgets_le_straight :
    Grid.crossing.findStart = .ok ⟨0, 1⟩ ∧
      (scenes tight straight (.init .crossing ⟨0, 1⟩ ⟨2, 2⟩ tight.maxSteps)).map
        (fun scene => scene.exchanges.map Exchange.call) =
          [[], [.move 1], [.move 1], [.move 1, .turn "right"], [.move 1]] ∧
      (∀ scene ∈ scenes tight straight (.init .crossing ⟨0, 1⟩ ⟨2, 2⟩ tight.maxSteps),
        ∀ e ∈ scene.exchanges, e.refusal? = none) ∧
      (∀ report n, execute tight .crossing ⟨2, 2⟩ straight = .ok report →
        report.outcome ≠ .stepLimitExceeded n) ∧
      tight.maxSteps ≤ 1000 ∧ tight.maxTicks ≤ 1000 ∧
      ∃ report, execute tight .crossing ⟨2, 2⟩ straight = .ok report ∧
        execute { tight with maxSteps := 1000, maxTicks := 1000 } .crossing ⟨2, 2⟩ straight =
          .ok report := by
  have hs : Grid.crossing.findStart = .ok ⟨0, 1⟩ := rfl
  have hcalls : (scenes tight straight (.init .crossing ⟨0, 1⟩ ⟨2, 2⟩ tight.maxSteps)).map
      (fun scene => scene.exchanges.map Exchange.call) =
        [[], [.move 1], [.move 1], [.move 1, .turn "right"], [.move 1]] := by
    decide +kernel
  have hall : (scenes tight straight (.init .crossing ⟨0, 1⟩ ⟨2, 2⟩ tight.maxSteps)).all
      (fun scene => scene.exchanges.all fun e => e.refusal?.isNone) = true := by
    decide +kernel
  have ho : (run tight straight (.init .crossing ⟨0, 1⟩ ⟨2, 2⟩ tight.maxSteps)).outcome =
      .completed .goal := by
    decide +kernel
  have hunrefused :
      ∀ scene ∈ scenes tight straight (.init .crossing ⟨0, 1⟩ ⟨2, 2⟩ tight.maxSteps),
        ∀ e ∈ scene.exchanges, e.refusal? = none := by
    intro scene hscene e he
    have hnone := List.all_eq_true.mp hall scene hscene
    exact Option.isNone_iff_eq_none.mp (List.all_eq_true.mp hnone e he)
  have hended : ∀ report n, execute tight .crossing ⟨2, 2⟩ straight = .ok report →
      report.outcome ≠ .stepLimitExceeded n := by
    intro report n hreport same
    rw [execute_of_findStart _ hs] at hreport
    rw [← Except.ok.inj hreport, Run.Ended.outcome_report, ho] at same
    cases same
  exact ⟨hs, hcalls, hunrefused, hended, by decide, by decide,
    execute_of_budgets_le tight hs ⟨2, 2⟩ straight hunrefused hended (by decide) (by decide)⟩

end Engine

end MazeRobot
