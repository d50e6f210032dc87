import MazeRobot.Proofs.Visits

/-!
# Looking before moving

A robot that looks ahead knows what a step will bring: whether it can be made,
where it leads, whether the goal is there and how often the robot was there
before. A robot that looks to a side knows what it will have ahead once it has
turned there, and what it had ahead is then on the other side. Looking and
acting are answered from one projection, so they agree in every heading and at
every border of the grid.
-/

namespace MazeRobot

namespace Turn

/-- The side that a turn leads to. -/
def side : Turn → Relative
  | left => .left
  | right => .right

end Turn

namespace Robot

/-- All that can be asked of the cell in a direction. -/
structure Impression where
  /-- Whether the robot could stand there. -/
  empty : Bool
  /-- Whether the goal is there. -/
  goal : Bool
  /-- Whether the robot was there. -/
  visited : Bool
  /-- How often it was there. -/
  count : UInt32
  deriving DecidableEq, Repr

/-- What a robot answers about the cell in a direction. -/
def sense (r : Robot) (side : Relative) : Impression where
  empty := r.isEmpty side
  goal := r.isGoal side
  visited := r.hasVisited side
  count := r.visitCount side

/-- The answers depend on nothing but the cell and what the robot knows. -/
theorem sense_congr {r s : Robot} {side other : Relative} (hgrid : s.grid = r.grid)
    (hgoal : s.goal = r.goal) (hvisits : s.visits = r.visits)
    (hcell : s.project other = r.project side) : s.sense other = r.sense side := by
  simp only [sense, isEmpty, isGoal, hasVisited, visitCount, hgrid, hgoal, hvisits, hcell]

/-! ### Turning -/

/-- A turn brings ahead what was at its side. -/
theorem project_front_rotate (r : Robot) (t : Turn) :
    (r.rotate t).project .front = r.project t.side := by
  cases t <;> rfl

/-- It leaves at the other side what was ahead. -/
theorem project_opposite_rotate (r : Robot) (t : Turn) :
    (r.rotate t).project t.opposite.side = r.project .front := by
  have hback : ((r.heading.turned t).turned t.opposite).delta = r.heading.delta :=
    congrArg Heading.delta (r.heading.turned_opposite t)
  cases t with
  | left => exact congrArg r.position.offset hback
  | right => exact congrArg r.position.offset hback

theorem turn_of_left {r : Robot} (left : r.exhausted = false) (t : Turn) :
    r.turn t = (r.rotate t, .ok ()) :=
  if_neg (ne_true_of_eq_false left)

/-- A turn that succeeds was made, and a step was left for it. -/
theorem turn_eq_ok {r : Robot} {t : Turn} (h : (r.turn t).2 = .ok ()) :
    r.exhausted = false ∧ (r.turn t).1 = r.rotate t := by
  cases left : r.exhausted with
  | false => exact ⟨rfl, by rw [turn_of_left left]⟩
  | true =>
    rw [turn, if_pos left] at h
    cases h

/-! ### Moving -/

/-- A single move is a step onto a free cell, or a warning. -/
theorem moveForward_one_of_left {r : Robot} (left : r.exhausted = false) :
    r.moveForward 1 =
      if r.isEmpty .front then (r.advance, .ok true) else (r.note blockedMessage, .ok false) := by
  have hcount : ¬(1 : Int64) < 1 := by decide
  have hone : (1 : Int64).toInt.toNat = 1 := by decide
  rw [moveForward, if_neg hcount, hone, moveTimes, if_neg (ne_true_of_eq_false left)]
  rfl

/-- A single move is refused when no step is left. -/
theorem moveForward_one_of_exhausted {r : Robot} (used : r.exhausted = true) :
    r.moveForward 1 = (r.refuse, .error ⟨r.maxSteps⟩) := by
  have hcount : ¬(1 : Int64) < 1 := by decide
  have hone : (1 : Int64).toInt.toNat = 1 := by decide
  rw [moveForward, if_neg hcount, hone, moveTimes, if_pos used]

/-- A single move that succeeds is a step onto a free cell, and one was left. -/
theorem moveForward_one_eq_ok {r : Robot} (h : (r.moveForward 1).2 = .ok true) :
    r.exhausted = false ∧ r.isEmpty .front = true ∧ (r.moveForward 1).1 = r.advance := by
  cases left : r.exhausted with
  | true =>
    rw [moveForward_one_of_exhausted left] at h
    cases h
  | false =>
    rw [moveForward_one_of_left left] at h ⊢
    split at h
    · next free => exact ⟨rfl, free, by rw [if_pos free]⟩
    · cases h

/-- A step raises the count of the cell that was ahead by one. As long as the
memory is that of the walk, the count has room for it. -/
theorem toNat_visitCount_advance {start : Coord} {r : Robot} (hrecalls : Recalls start r)
    (hcounted : Counted r) (left : r.exhausted = false)
    (free : r.grid.isPassable (r.project .front) = true) :
    (r.advance.visitCount .here).toNat = (r.visitCount .front).toNat + 1 := by
  have hstep : Action r r.advance := .advance left free
  have hbefore := hrecalls.remembers hcounted
  have hafter := (hstep.recalls hrecalls).remembers (hstep.counted hcounted)
  have hwalk : r.advance.trace.walkFrom start = r.trace.walkFrom start ++ [r.project .front] :=
    Trace.walkFrom_of_move (toList_advance r) rfl start
  calc (r.advance.visitCount .here).toNat
      = (r.advance.trace.walkFrom start).count (r.project .front) := hafter.count _
    _ = (r.trace.walkFrom start).count (r.project .front) + 1 := by
        rw [hwalk, List.count_append, List.count_singleton_self]
    _ = (r.visitCount .front).toNat + 1 := congrArg (· + 1) (hbefore.count _).symm

/-- What a robot senses is what it meets, whatever was asked of it before. With a
step left, a single move succeeds exactly if the cell ahead is empty. A move that
succeeds leads onto that cell, to the goal exactly if the goal was ahead, and counts
one more visit than was counted ahead. A turn that succeeds, as it does with a step
left, brings ahead what was at its side, with the same answers to all questions, and
leaves at the other side what was ahead. -/
theorem requestAll_senses (grid : Grid) (start goal : Coord) (maxSteps : UInt32)
    (requests : List Request) :
    let r := (init grid start goal maxSteps).requestAll requests
    (r.steps < r.maxSteps → (r.moveForward 1).2 = .ok (r.isEmpty .front)) ∧
      ((r.moveForward 1).2 = .ok true →
        (r.moveForward 1).1.position = r.project .front ∧
          (r.moveForward 1).1.atGoal = r.isGoal .front ∧
          ((r.moveForward 1).1.visitCount .here).toNat = (r.visitCount .front).toNat + 1) ∧
      ∀ t : Turn, (r.steps < r.maxSteps → (r.turn t).2 = .ok ()) ∧
        ((r.turn t).2 = .ok () →
          (r.turn t).1.project .front = r.project t.side ∧
            (r.turn t).1.project t.opposite.side = r.project .front ∧
            (r.turn t).1.sense .front = r.sense t.side ∧
            (r.turn t).1.sense t.opposite.side = r.sense .front) := by
  intro r
  have hacts : Acts (init grid start goal maxSteps) r := acts_requestAll _ requests
  have hrecalls : Recalls start r := hacts.keep Action.recalls (recalls_init _ _ _ _)
  have hcounted : Counted r := hacts.keep Action.counted (counted_init _ _ _ _)
  have hleft (h : r.steps < r.maxSteps) : r.exhausted = false :=
    (exhausted_eq_false_iff r).mpr (UInt32.lt_iff_toNat_lt.mp h)
  refine ⟨fun h => ?_, fun h => ?_, fun t => ⟨fun h => ?_, fun h => ?_⟩⟩
  · rw [moveForward_one_of_left (hleft h)]
    cases r.isEmpty .front <;> rfl
  · obtain ⟨left, free, hmoved⟩ := moveForward_one_eq_ok h
    rw [hmoved]
    exact ⟨rfl, rfl, toNat_visitCount_advance hrecalls hcounted left free⟩
  · rw [turn_of_left (hleft h)]
  · rw [(turn_eq_ok h).2]
    have hfront := r.project_front_rotate t
    have hopposite := r.project_opposite_rotate t
    exact ⟨hfront, hopposite, sense_congr rfl rfl rfl hfront, sense_congr rfl rfl rfl hopposite⟩

/-- A robot that has turned to the goal reaches it by a single move, and a turn back
brings ahead what it has on its right. -/
theorem requestAll_senses_crossing :
    let r := (init .crossing ⟨0, 1⟩ ⟨0, 0⟩ 2).requestAll [.turn .left]
    r.steps < r.maxSteps ∧ (r.moveForward 1).2 = .ok true ∧
      (r.moveForward 1).1.position = ⟨0, 0⟩ ∧ (r.moveForward 1).1.atGoal = true ∧
      ((r.moveForward 1).1.visitCount .here).toNat = 1 ∧ (r.turn .right).2 = .ok () ∧
      (r.turn .right).1.project .front = ⟨1, 1⟩ ∧
      (r.turn .right).1.sense .left = ⟨true, true, false, 0⟩ := by
  intro r
  obtain ⟨hmove, hmoved, hturn⟩ :=
    requestAll_senses .crossing ⟨0, 1⟩ ⟨0, 0⟩ 2 [.turn .left]
  have hleft : r.steps < r.maxSteps := by decide
  have hfree : (r.moveForward 1).2 = .ok true := (hmove hleft).trans rfl
  obtain ⟨hposition, hgoal, hcount⟩ := hmoved hfree
  have hturned : (r.turn .right).2 = .ok () := (hturn .right).1 hleft
  obtain ⟨hfront, -, -, hsense⟩ := (hturn .right).2 hturned
  refine ⟨hleft, hfree, ?_, ?_, ?_, hturned, ?_, ?_⟩
  · rw [hposition]
    decide
  · rw [hgoal]
    decide
  · rw [hcount]
    decide
  · rw [hfront]
    decide
  · exact hsense.trans (by decide)

end Robot

end MazeRobot
