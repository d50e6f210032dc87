import Mathlib.Data.Nat.Find
import Mathlib.Tactic.Ring
import MazeRobot.Proofs.Accounting
import MazeRobot.Proofs.Walk

/-!
# Strides

A move of several cells is a loop with three bounds: the count that was asked
for, the free cells ahead and the steps left. Which of them ends it is read
off the robot before the first step, and so is the robot it leaves. The way
ahead is blocked sooner or later in every grid, even for a robot outside of
it: the coordinates are words, so a straight line comes to column or row minus
one, where no grid has a cell.
-/

namespace MazeRobot

namespace Robot

/-- The cell that lies so many cells ahead. -/
def ahead (r : Robot) : Nat → Coord
  | 0 => r.position
  | n + 1 => (r.ahead n).offset r.heading.delta

/-- The steps that the robot has left. -/
def budget (r : Robot) : Nat :=
  r.maxSteps.toNat - r.steps.toNat

/-- The record of the step onto the cell that lies `n + 1` cells ahead. -/
def moveRecord (r : Robot) (n : Nat) : Record :=
  ⟨.move, r.ahead (n + 1), r.heading, movedMessage (r.ahead (n + 1))⟩

/-- The robot `n` cells ahead: it made `n` steps, entered each of the cells on
the way once, in their order, and wrote one record for each. -/
def moved (r : Robot) (n : Nat) : Robot :=
  { r with
    position := r.ahead n
    steps := r.steps + UInt32.ofNat n
    visits := (List.range n).foldl (fun visits j => visits.visit (r.ahead (j + 1))) r.visits
    trace := ⟨(r.trace.toList ++ (List.range n).map r.moveRecord).toArray⟩ }

/-- What a move of several cells comes to. -/
structure Stride where
  /-- The robot after it. -/
  robot : Robot
  /-- What the script is told. -/
  verdict : Except Refusal Bool
  /-- How often the loop began anew. -/
  repetitions : Nat

namespace Stride

/-- The stride that went through the loop more often before. -/
def after (s : Stride) (before : Nat) : Stride :=
  { s with repetitions := before + s.repetitions }

end Stride

/-- The loop of a move of several cells, with its repetitions counted. -/
def stride : Nat → Robot → Stride
  | 0, r => ⟨r, .ok true, 0⟩
  | count + 1, r =>
    if r.exhausted then ⟨r.refuse, .error ⟨r.maxSteps⟩, 1⟩
    else if r.grid.isPassable (r.project .front) then (stride count r.advance).after 1
    else ⟨r.note blockedMessage, .ok false, 1⟩

/-- Counting the repetitions changes nothing. -/
theorem moveTimes_eq_stride (count : Nat) (r : Robot) :
    moveTimes count r = ((stride count r).robot, (stride count r).verdict) := by
  induction count generalizing r with
  | zero => rfl
  | succ count ih =>
    rw [moveTimes, stride]
    split
    · rfl
    · split
      · exact ih r.advance
      · rfl

/-! ### The way ahead -/

/-- A straight line in closed form. -/
theorem ahead_eq (r : Robot) (n : Nat) :
    r.ahead n = ⟨r.position.x + Int32.ofNat n * r.heading.delta.x,
      r.position.y + Int32.ofNat n * r.heading.delta.y⟩ := by
  induction n with
  | zero => simp [ahead]
  | succ n ih =>
    rw [ahead, ih, Coord.offset]
    simp only [Coord.mk.injEq, Int32.ofNat_add]
    constructor <;> grind

/-- No robot can stand in column or row minus one. -/
theorem not_isPassable_of_eq {g : Grid} {c : Coord} (h : c.x = -1 ∨ c.y = -1) :
    g.isPassable c = false := by
  have hneg : (-1 : Int32).toInt = -1 := by decide
  refine eq_false_of_ne_true fun hp => ?_
  obtain ⟨⟨hx, _⟩, hy, _⟩ := (g.inBounds_iff c).mp ((g.isPassable_iff c).mp hp).1
  rcases h with h | h
  · rw [h, hneg] at hx
    omega
  · rw [h, hneg] at hy
    omega

/-- Every word is the word of a number. -/
theorem exists_ofNat_eq (a : Int32) : ∃ n : Nat, Int32.ofNat n = a :=
  ⟨a.toBitVec.toNat, Int32.toBitVec_inj.mp (by simp)⟩

/-- Counting up or down from any word comes to minus one. -/
theorem exists_reaches (a : Int32) {step : Int32} (h : step = 1 ∨ step = -1) :
    ∃ n : Nat, a + Int32.ofNat (n + 1) * step = -1 := by
  have hsucc {n : Nat} {b : Int32} (hn : Int32.ofNat n = b) : Int32.ofNat (n + 1) = b + 1 :=
    (Int32.ofNat_add n 1).trans (congrArg (· + 1) hn)
  rcases h with rfl | rfl
  · obtain ⟨n, hn⟩ := exists_ofNat_eq (-2 - a)
    have hnext := hsucc hn
    exact ⟨n, by grind⟩
  · obtain ⟨n, hn⟩ := exists_ofNat_eq a
    have hnext := hsucc hn
    exact ⟨n, by grind⟩

/-- The way ahead ends, wherever the robot stands. -/
theorem exists_blocked (r : Robot) : ∃ n, r.grid.isPassable (r.ahead (n + 1)) = false := by
  have haxis : (r.heading.delta.x = 1 ∨ r.heading.delta.x = -1) ∨
      (r.heading.delta.y = 1 ∨ r.heading.delta.y = -1) := by
    cases r.heading <;> decide
  rcases haxis with hx | hy
  · obtain ⟨n, hn⟩ := exists_reaches r.position.x hx
    exact ⟨n, not_isPassable_of_eq (.inl ((congrArg Coord.x (r.ahead_eq (n + 1))).trans hn))⟩
  · obtain ⟨n, hn⟩ := exists_reaches r.position.y hy
    exact ⟨n, not_isPassable_of_eq (.inr ((congrArg Coord.y (r.ahead_eq (n + 1))).trans hn))⟩

/-- The number of free cells ahead, up to the first wall or the edge of the
grid. -/
def freeAhead (r : Robot) : Nat :=
  Nat.find r.exists_blocked

/-- The cells counted as free are free. -/
theorem isPassable_ahead {r : Robot} {n : Nat} (h : n < r.freeAhead) :
    r.grid.isPassable (r.ahead (n + 1)) = true :=
  eq_true_of_ne_false (Nat.find_min r.exists_blocked h)

/-- The cell behind the free ones is not. -/
theorem isPassable_behind (r : Robot) :
    r.grid.isPassable (r.ahead (r.freeAhead + 1)) = false :=
  Nat.find_spec r.exists_blocked

/-- A cell that lies ahead, counted in integers: so many steps along the heading. -/
theorem toInt_ahead {r : Robot} (ha : r.grid.Addressable)
    (hb : r.grid.inBounds r.position = true) {n : Nat} (hn : n ≤ r.freeAhead + 1) :
    (r.ahead n).x.toInt = r.position.x.toInt + n * r.heading.delta.x.toInt ∧
      (r.ahead n).y.toInt = r.position.y.toInt + n * r.heading.delta.y.toInt := by
  induction n with
  | zero => simp [ahead]
  | succ n ih =>
    obtain ⟨hx, hy⟩ := ih (by omega)
    have hin : r.grid.inBounds (r.ahead n) = true := by
      cases n with
      | zero => exact hb
      | succ n => exact ((Grid.isPassable_iff _ _).mp (isPassable_ahead (by omega))).1
    obtain ⟨hx', hy'⟩ := Grid.isAt_offset ha hin r.heading
    rw [ahead, hx', hy', hx, hy]
    push_cast
    constructor <;> ring

/-! ### One step of the way -/

@[simp] theorem moved_zero (r : Robot) : r.moved 0 = r := by
  simp [moved, ahead, Trace.toList]

/-- A step is made from the cell that the steps before led to. -/
theorem advance_moved (r : Robot) (n : Nat) : (r.moved n).advance = r.moved (n + 1) := by
  have hs : r.steps + UInt32.ofNat n + 1 = r.steps + UInt32.ofNat (n + 1) := by
    rw [UInt32.ofNat_add, UInt32.add_assoc]
    rfl
  simp only [advance, record, moved, project, ahead, moveRecord, Trace.push, List.range_succ,
    List.foldl_append, List.foldl_cons, List.foldl_nil, List.map_append, List.map_cons,
    List.map_nil, hs]
  simp only [← List.append_assoc, List.push_toArray]

/-- The steps made are counted exactly as long as the budget lasts. -/
theorem toNat_steps_moved {r : Robot} {n : Nat} (h : n ≤ r.budget) :
    (r.moved n).steps.toNat = r.steps.toNat + n := by
  rw [budget] at h
  have hm := r.maxSteps.toNat_lt_size
  have hs := r.steps.toNat_lt_size
  cases n with
  | zero => rw [moved_zero, Nat.add_zero]
  | succ n =>
    rw [moved, UInt32.toNat_add, UInt32.toNat_ofNat_of_lt' (by omega)]
    exact Nat.mod_eq_of_lt (by change _ < UInt32.size; omega)

theorem exhausted_moved {r : Robot} {n : Nat} (h : n < r.budget) :
    (r.moved n).exhausted = false := by
  rw [exhausted_eq_false_iff, toNat_steps_moved (Nat.le_of_lt h)]
  rw [budget] at h
  exact Nat.add_lt_of_lt_sub' h

theorem exhausted_moved_budget (r : Robot) : (r.moved r.budget).exhausted = true := by
  refine eq_true_of_ne_false fun left => ?_
  rw [exhausted_eq_false_iff, toNat_steps_moved (Nat.le_refl _)] at left
  have hm : (r.moved r.budget).maxSteps = r.maxSteps := rfl
  rw [hm, budget] at left
  omega

/-! ### The whole way -/

/-- As long as the way is free and steps are left, the loop goes on from the
next cell. -/
theorem stride_of_free {r : Robot} {n : Nat} (hfree : n ≤ r.freeAhead) (hleft : n ≤ r.budget)
    (count : Nat) : stride (n + count) r = (stride count (r.moved n)).after n := by
  induction n generalizing count with
  | zero => rw [moved_zero, Nat.zero_add, Stride.after, Nat.zero_add]
  | succ n ih =>
    have hpass : (r.moved n).grid.isPassable ((r.moved n).project .front) = true :=
      isPassable_ahead hfree
    rw [Nat.succ_add_eq_add_succ, ih (by omega) (by omega), stride,
      if_neg (ne_true_of_eq_false (exhausted_moved hleft)), if_pos hpass, advance_moved]
    simp only [Stride.after, Nat.add_assoc]

/-- What a stride comes to, told before the first step. A wall is not noticed
once the budget is used up, as each cell is asked for the budget first. -/
def outlook (r : Robot) (count : Nat) : Stride :=
  if count ≤ r.freeAhead ∧ count ≤ r.budget then ⟨r.moved count, .ok true, count⟩
  else if r.freeAhead < r.budget then
    ⟨(r.moved r.freeAhead).note blockedMessage, .ok false, r.freeAhead + 1⟩
  else ⟨(r.moved r.budget).refuse, .error ⟨r.maxSteps⟩, r.budget + 1⟩

/-- A stride comes to what was told of it. -/
theorem stride_eq_outlook (r : Robot) (count : Nat) : stride count r = r.outlook count := by
  rw [outlook]
  split
  · next h => exact stride_of_free h.1 h.2 0
  next h =>
  split
  · next hlt =>
    obtain ⟨rest, rfl⟩ : ∃ rest, count = r.freeAhead + (rest + 1) :=
      ⟨count - r.freeAhead - 1, by omega⟩
    have hblocked : (r.moved r.freeAhead).grid.isPassable
        ((r.moved r.freeAhead).project .front) = false := r.isPassable_behind
    rw [stride_of_free (Nat.le_refl _) (Nat.le_of_lt hlt), stride,
      if_neg (ne_true_of_eq_false (exhausted_moved hlt)),
      if_neg (ne_true_of_eq_false hblocked)]
    rfl
  · next hle =>
    obtain ⟨rest, rfl⟩ : ∃ rest, count = r.budget + (rest + 1) :=
      ⟨count - r.budget - 1, by omega⟩
    rw [stride_of_free (Nat.le_of_not_lt hle) (Nat.le_refl _), stride,
      if_pos r.exhausted_moved_budget]
    rfl

/-- Every stride begins at most one repetition more than there are steps left. -/
theorem repetitions_outlook_le (r : Robot) (count : Nat) :
    (r.outlook count).repetitions ≤ r.budget + 1 := by
  rw [outlook]
  split
  · next h => exact Nat.le_succ_of_le h.2
  · split
    · next hlt => exact Nat.succ_le_succ (Nat.le_of_lt hlt)
    · exact Nat.le_refl _

/-- The closed form of a move of several cells. A count below one is answered
by a warning and nothing else. Otherwise the loop comes to what the outlook
tells: all cells, or the free cells and a warning, or the steps left and a
refusal. The free cells are those up to the first that is not passable; they
lie in a line without wrapping around, and no step goes uncounted. -/
theorem moveForward_outlook (r : Robot) (count : Int64) :
    (count < 1 → r.moveForward count = (r.note (badCountMessage count), .ok false)) ∧
    (1 ≤ count → ∃ n : Nat, count.toInt = n ∧ stride n r = r.outlook n ∧
      r.moveForward count = ((r.outlook n).robot, (r.outlook n).verdict) ∧
      (r.outlook n).repetitions ≤ r.budget + 1) ∧
    ((∀ n < r.freeAhead, r.grid.isPassable (r.ahead (n + 1)) = true) ∧
      r.grid.isPassable (r.ahead (r.freeAhead + 1)) = false) ∧
    (r.grid.Addressable → r.grid.inBounds r.position = true → ∀ n ≤ r.freeAhead + 1,
      (r.ahead n).x.toInt = r.position.x.toInt + n * r.heading.delta.x.toInt ∧
      (r.ahead n).y.toInt = r.position.y.toInt + n * r.heading.delta.y.toInt) ∧
    ∀ n ≤ r.budget, (r.moved n).steps.toNat = r.steps.toNat + n := by
  refine ⟨fun hlow => ?_, fun hpos => ?_, ⟨fun n h => isPassable_ahead h, r.isPassable_behind⟩,
    fun ha hb n hn => toInt_ahead ha hb hn, fun n hn => toNat_steps_moved hn⟩
  · rw [moveForward, if_pos hlow]
  · have hone : 1 ≤ count.toInt := Int64.le_iff_toInt_le.mp hpos
    have hnot : ¬count < 1 := Int64.not_lt.mpr hpos
    refine ⟨count.toInt.toNat, (Int.toNat_of_nonneg (by omega)).symm, r.stride_eq_outlook _, ?_,
      r.repetitions_outlook_le _⟩
    rw [moveForward, if_neg hnot, moveTimes_eq_stride, stride_eq_outlook]

/-- The largest count there is leads a robot to the edge of a small grid, and
a count of zero nowhere. -/
theorem moveForward_outlook_crossing :
    (init .crossing ⟨0, 1⟩ ⟨2, 2⟩ 5).moveForward 0 =
      ((init .crossing ⟨0, 1⟩ ⟨2, 2⟩ 5).note (badCountMessage 0), .ok false) ∧
    ((init .crossing ⟨0, 1⟩ ⟨2, 2⟩ 5).moveForward Int64.maxValue).1.position = ⟨2, 1⟩ ∧
    ((init .crossing ⟨0, 1⟩ ⟨2, 2⟩ 5).moveForward Int64.maxValue).2 = .ok false ∧
    ((init .crossing ⟨0, 1⟩ ⟨2, 2⟩ 5).ahead 3).x.toInt = 3 := by
  have hfree : (init .crossing ⟨0, 1⟩ ⟨2, 2⟩ 5).freeAhead = 2 :=
    (Nat.find_eq_iff _).mpr ⟨by decide, by decide⟩
  have hleft : (init .crossing ⟨0, 1⟩ ⟨2, 2⟩ 5).budget = 5 := rfl
  obtain ⟨n, hn, _, hm, _⟩ :=
    (moveForward_outlook (init .crossing ⟨0, 1⟩ ⟨2, 2⟩ 5) Int64.maxValue).2.1 (by decide)
  rw [Int64.toInt_maxValue] at hn
  have hline := (moveForward_outlook (init .crossing ⟨0, 1⟩ ⟨2, 2⟩ 5) 0).2.2.2.1
    (by decide) (by decide) 3 (by rw [hfree])
  refine ⟨(moveForward_outlook _ 0).1 (by decide), ?_, ?_, hline.1⟩
  · rw [hm, outlook, hfree, hleft, if_neg (by omega), if_pos (by decide)]
    rfl
  · rw [hm, outlook, hfree, hleft, if_neg (by omega), if_pos (by decide)]

end Robot

end MazeRobot
