import MazeRobot.Proofs.Sensing

/-!
# The way back

A robot that has walked somewhere can walk home. Single moves and turns that
all succeeded are undone by turning round and making them in reverse order,
with left and right swapped: a turn is undone by the opposite turn, and a step
by a step against the opposite heading, onto a cell that the robot stood on
before. All that is needed is a step of the budget for each of them.
-/

namespace MazeRobot

namespace Heading

/-- The heading after turning round. -/
def reversed (h : Heading) : Heading :=
  (h.turned .left).turned .left

theorem delta_reversed (h : Heading) : h.reversed.delta = ⟨-h.delta.x, -h.delta.y⟩ :=
  h.delta_turned_twice .left

/-- Whoever has turned round undoes a turn by the opposite one. -/
theorem reversed_turned (h : Heading) (t : Turn) :
    (h.turned t).reversed.turned t.opposite = h.reversed := by
  cases h <;> cases t <;> rfl

end Heading

/-- A single move or turn. -/
inductive Maneuver where
  /-- One cell ahead. -/
  | ahead
  /-- One quarter turn. -/
  | turn (t : Turn)
  deriving DecidableEq, Repr

namespace Maneuver

/-- The maneuver with left and right swapped. -/
def swapped : Maneuver → Maneuver
  | ahead => ahead
  | turn t => turn t.opposite

/-- What leads back the way that a walk went: turning round, and the walk in reverse
order with left and right swapped. -/
def wayBack (walk : List Maneuver) : List Maneuver :=
  .turn .left :: .turn .left :: walk.reverse.map swapped

end Maneuver

namespace Robot

/-- The robot after a maneuver, if it succeeds. -/
def carryOut (r : Robot) : Maneuver → Option Robot
  | .ahead =>
    match r.moveForward 1 with
    | (s, .ok true) => some s
    | (_, .ok false) | (_, .error _) => none
  | .turn t =>
    match r.turn t with
    | (s, .ok ()) => some s
    | (_, .error _) => none

/-- The robot after maneuvers, one after the other, if all of them succeed. -/
def carryOutAll : List Maneuver → Robot → Option Robot
  | [], r => some r
  | m :: rest, r => (r.carryOut m).bind (carryOutAll rest)

theorem carryOutAll_append (walk more : List Maneuver) (r : Robot) :
    carryOutAll (walk ++ more) r = (carryOutAll walk r).bind (carryOutAll more) := by
  induction walk generalizing r with
  | nil => rfl
  | cons m rest ih =>
    rw [List.cons_append, carryOutAll, carryOutAll, Option.bind_assoc]
    exact Option.bind_congr fun s _ => ih s

/-! ### One maneuver -/

/-- A move succeeds with a step left and a free cell ahead. -/
theorem carryOut_ahead_iff {r s : Robot} :
    r.carryOut .ahead = some s ↔
      r.exhausted = false ∧ r.grid.isPassable (r.project .front) = true ∧ s = r.advance := by
  rw [carryOut]
  constructor
  · intro h
    split at h
    · next moved hmoved =>
      obtain ⟨left, free, hadvance⟩ := moveForward_one_eq_ok (congrArg Prod.snd hmoved)
      rw [hmoved] at hadvance
      exact ⟨left, free, (Option.some.inj h).symm.trans hadvance⟩
    · cases h
    · cases h
  · rintro ⟨left, free, rfl⟩
    rw [moveForward_one_of_left left, isEmpty, if_pos free]

/-- A turn succeeds with a step left. -/
theorem carryOut_turn_iff {r s : Robot} {t : Turn} :
    r.carryOut (.turn t) = some s ↔ r.exhausted = false ∧ s = r.rotate t := by
  rw [carryOut]
  constructor
  · intro h
    split at h
    · next turned hturned =>
      obtain ⟨left, hrotate⟩ := turn_eq_ok (congrArg Prod.snd hturned)
      rw [hturned] at hrotate
      exact ⟨left, (Option.some.inj h).symm.trans hrotate⟩
    · cases h
  · rintro ⟨left, rfl⟩
    rw [turn_of_left left]

/-- What maneuvers leave of a robot. -/
structure Led (r : Robot) (count : Nat) (s : Robot) : Prop where
  /-- It is in the same maze. -/
  grid : s.grid = r.grid
  /-- It has the same budget. -/
  maxSteps : s.maxSteps = r.maxSteps
  /-- Each maneuver took a step. -/
  steps : s.steps.toNat = r.steps.toNat + count
  /-- It stands on a free cell, if it did so before. -/
  standing : r.grid.isPassable r.position = true → r.grid.isPassable s.position = true

theorem Led.trans {r s u : Robot} {count more : Nat} (h : Led r count s) (h' : Led s more u) :
    Led r (count + more) u where
  grid := h'.grid.trans h.grid
  maxSteps := h'.maxSteps.trans h.maxSteps
  steps := by rw [h'.steps, h.steps, Nat.add_assoc]
  standing onCell := by
    rw [← h.grid]
    exact h'.standing (by rw [h.grid]; exact h.standing onCell)

theorem led_carryOut {r s : Robot} {m : Maneuver} (h : r.carryOut m = some s) : Led r 1 s := by
  cases m with
  | ahead =>
    obtain ⟨left, free, rfl⟩ := carryOut_ahead_iff.mp h
    have hlt := (exhausted_eq_false_iff r).mp left
    exact ⟨rfl, rfl, toNat_add_one hlt r.maxSteps.toNat_lt, fun _ => free⟩
  | turn t =>
    obtain ⟨left, rfl⟩ := carryOut_turn_iff.mp h
    have hlt := (exhausted_eq_false_iff r).mp left
    exact ⟨rfl, rfl, toNat_add_one hlt r.maxSteps.toNat_lt, id⟩

/-- One robot stands where another one stands, and faces the other way. -/
structure Faces (r t : Robot) : Prop where
  /-- They are in the same maze. -/
  grid : t.grid = r.grid
  /-- They stand on the same cell. -/
  position : t.position = r.position
  /-- They face opposite ways. -/
  heading : t.heading = r.heading.reversed

/-- With a step left, a robot that faces another one undoes its maneuver. -/
theorem Faces.carryOut {r s t : Robot} {m : Maneuver} (hm : r.carryOut m = some s)
    (standing : r.grid.isPassable r.position = true) (h : Faces s t)
    (left : t.exhausted = false) : ∃ u, t.carryOut m.swapped = some u ∧ Faces r u := by
  cases m with
  | ahead =>
    obtain ⟨-, -, rfl⟩ := carryOut_ahead_iff.mp hm
    -- The cell ahead is the one that the step came from.
    have hback : t.project .front = r.position := by
      have hoffset := Coord.offset_neg r.position r.heading.delta
      rw [← Heading.delta_reversed] at hoffset
      rw [project, h.position, h.heading]
      exact hoffset
    refine ⟨t.advance, carryOut_ahead_iff.mpr ⟨left, ?_, rfl⟩, h.grid, hback, h.heading⟩
    rw [hback, h.grid]
    exact standing
  | turn side =>
    obtain ⟨-, rfl⟩ := carryOut_turn_iff.mp hm
    refine ⟨t.rotate side.opposite, carryOut_turn_iff.mpr ⟨left, rfl⟩, h.grid, h.position, ?_⟩
    have hheading : t.heading = (r.heading.turned side).reversed := h.heading
    exact (congrArg (·.turned side.opposite) hheading).trans (r.heading.reversed_turned side)

/-! ### A whole walk -/

theorem led_carryOutAll {walk : List Maneuver} {r s : Robot}
    (h : carryOutAll walk r = some s) : Led r walk.length s := by
  induction walk generalizing r with
  | nil =>
    obtain rfl := Option.some.inj h
    exact ⟨rfl, rfl, rfl, id⟩
  | cons m rest ih =>
    obtain ⟨middle, hm, hrest⟩ := Option.bind_eq_some_iff.mp h
    rw [List.length_cons, Nat.add_comm]
    exact (led_carryOut hm).trans (ih hrest)

/-- With a step left for each maneuver, a robot that faces another one undoes the walk
that led it there, the latest maneuver first. -/
theorem Faces.carryOutAll {walk : List Maneuver} {r s t : Robot}
    (hwalk : Robot.carryOutAll walk r = some s)
    (standing : r.grid.isPassable r.position = true) (h : Faces s t)
    (room : t.steps.toNat + walk.length ≤ t.maxSteps.toNat) :
    ∃ u, Robot.carryOutAll (walk.reverse.map Maneuver.swapped) t = some u ∧ Faces r u := by
  induction walk generalizing r with
  | nil =>
    obtain rfl := Option.some.inj hwalk
    exact ⟨t, rfl, h⟩
  | cons m rest ih =>
    obtain ⟨middle, hm, hrest⟩ := Option.bind_eq_some_iff.mp hwalk
    rw [List.length_cons] at room
    have hstanding : middle.grid.isPassable middle.position = true := by
      rw [(led_carryOut hm).grid]
      exact (led_carryOut hm).standing standing
    obtain ⟨u, hu, hfaces⟩ := ih hrest hstanding (by omega)
    have hled := led_carryOutAll hu
    have left : u.exhausted = false := by
      have hsteps := hled.steps
      rw [List.length_map, List.length_reverse] at hsteps
      rw [exhausted_eq_false_iff, hled.maxSteps]
      omega
    obtain ⟨last, hlast, hhome⟩ := hfaces.carryOut hm standing left
    refine ⟨last, ?_, hhome⟩
    rw [List.reverse_cons, List.map_append, carryOutAll_append, hu]
    exact congrArg (Option.bind · some) hlast

/-- With two steps left a robot can turn round, and then it faces where it came
from. -/
theorem exists_turnedRound {r : Robot} (room : r.steps.toNat + 2 ≤ r.maxSteps.toNat) :
    ∃ t, carryOutAll [.turn .left, .turn .left] r = some t ∧ Faces r t := by
  have first : r.carryOut (.turn .left) = some (r.rotate .left) :=
    carryOut_turn_iff.mpr ⟨(exhausted_eq_false_iff r).mpr (by omega), rfl⟩
  have left : (r.rotate .left).exhausted = false := by
    rw [exhausted_eq_false_iff, (led_carryOut first).steps, (led_carryOut first).maxSteps]
    omega
  have second : (r.rotate .left).carryOut (.turn .left) = some ((r.rotate .left).rotate .left) :=
    carryOut_turn_iff.mpr ⟨left, rfl⟩
  refine ⟨(r.rotate .left).rotate .left, ?_, rfl, rfl, rfl⟩
  rw [carryOutAll, first, Option.bind_some, carryOutAll, second]
  rfl

/-- Every walk can be walked back. Single moves and turns that all succeed from a
start cell on are undone by turning left twice and making them in reverse order with
left and right swapped, if enough steps are left. All of that succeeds, takes a step
for each of them and two more, and leads back to the start cell, facing away from
the east, where the robot faced at first. The start that a grid gives is a start
cell, as long as its sides fit into a coordinate. -/
theorem carryOutAll_wayBack (grid : Grid) :
    (∀ (start goal : Coord) (maxSteps : UInt32) (walk : List Maneuver) (r : Robot),
        grid.cell? start = some .start →
        carryOutAll walk (init grid start goal maxSteps) = some r →
        r.steps.toNat + (walk.length + 2) ≤ maxSteps.toNat →
        ∃ s, carryOutAll (Maneuver.wayBack walk) r = some s ∧ s.position = start ∧
          s.heading = .west ∧ s.steps.toNat = r.steps.toNat + (walk.length + 2)) ∧
      (grid.Addressable → ∀ start, grid.findStart = .ok start →
        grid.cell? start = some .start) := by
  refine ⟨fun start goal maxSteps walk r hstart hwalk room => ?_,
    fun ha start hfound => Grid.cell?_of_findStart ha hfound⟩
  have hmax : r.maxSteps = maxSteps := (led_carryOutAll hwalk).maxSteps
  obtain ⟨t, hround, hfaces⟩ := exists_turnedRound (r := r) (by rw [hmax]; omega)
  have hroom : t.steps.toNat + walk.length ≤ t.maxSteps.toNat := by
    have hsteps := (led_carryOutAll hround).steps
    rw [(led_carryOutAll hround).maxSteps, hmax, hsteps, List.length_cons, List.length_singleton]
    omega
  obtain ⟨s, hback, hhome⟩ :=
    hfaces.carryOutAll hwalk (Grid.isPassable_of_start hstart) hroom
  have hall : carryOutAll (Maneuver.wayBack walk) r = some s := by
    have happend := carryOutAll_append [.turn .left, .turn .left]
      (walk.reverse.map Maneuver.swapped) r
    rw [hround, Option.bind_some, hback] at happend
    exact happend
  refine ⟨s, hall, hhome.position, hhome.heading, ?_⟩
  have hsteps := (led_carryOutAll hall).steps
  have hlength : (Maneuver.wayBack walk).length = walk.length + 2 := by
    simp only [Maneuver.wayBack, List.length_cons, List.length_map, List.length_reverse]
  rwa [hlength] at hsteps

/-- A walk round a corner of a small grid. -/
def outing : List Maneuver :=
  [.ahead, .ahead, .turn .left, .ahead]

/-- A robot comes home from a walk round a corner with the very last step of its
budget. -/
theorem carryOutAll_wayBack_outing :
    Grid.crossing.cell? ⟨0, 1⟩ = some .start ∧ Grid.crossing.findStart = .ok ⟨0, 1⟩ ∧
      ∃ r, carryOutAll outing (init .crossing ⟨0, 1⟩ ⟨2, 2⟩ 10) = some r ∧
        r.position = ⟨2, 0⟩ ∧ r.heading = .north ∧
        ∃ s, carryOutAll [.turn .left, .turn .left, .ahead, .turn .right, .ahead, .ahead] r =
            some s ∧ s.position = ⟨0, 1⟩ ∧ s.heading = .west ∧ s.steps.toNat = 10 := by
  have hstart : Grid.crossing.cell? ⟨0, 1⟩ = some .start :=
    (carryOutAll_wayBack .crossing).2 (by decide) _ rfl
  obtain ⟨r, hwalk, hr⟩ : ∃ r, carryOutAll outing (init .crossing ⟨0, 1⟩ ⟨2, 2⟩ 10) = some r ∧
      r.position = ⟨2, 0⟩ ∧ r.heading = .north ∧ r.steps = 4 := ⟨_, rfl, by decide⟩
  obtain ⟨hposition, hheading, hsteps⟩ := hr
  obtain ⟨s, hback, hhome, hwest, hcount⟩ := (carryOutAll_wayBack .crossing).1 ⟨0, 1⟩ ⟨2, 2⟩ 10
    outing r hstart hwalk (by rw [hsteps]; decide)
  rw [hsteps] at hcount
  exact ⟨hstart, rfl, r, hwalk, hposition, hheading, s, hback, hhome, hwest, hcount⟩

end Robot

end MazeRobot
