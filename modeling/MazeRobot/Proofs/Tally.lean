import MazeRobot.Proofs.Visits
import MazeRobot.Visits.Tally

/-!
# Tallies and memories

A tally is asked and grows as the memory that it stands for: both tell the same counts,
list the same cells in the same order, and still do so after one more visit. So the
memory of a robot is what a tally of its walk tells.
-/

namespace MazeRobot

namespace Tally

/-! ### One visit -/

/-- One more visit raises the count of its cell. -/
theorem count_visit_self (t : Tally) (c : Coord) : (t.visit c).count c = t.count c + 1 := by
  unfold visit count
  split
  · next h =>
    rw [Std.HashMap.getD_insert_self, Std.HashMap.getD_eq_getD_getElem?,
      Std.HashMap.getElem?_eq_some_getElem h, Option.getD_some]
  · next h => rw [Std.HashMap.getD_insert_self, Std.HashMap.getD_eq_fallback h]

/-- It leaves the counts of all others. -/
theorem count_visit_of_ne (t : Tally) {c d : Coord} (h : d ≠ c) :
    (t.visit c).count d = t.count d := by
  have hne : (c == d) = false := beq_false_of_ne (Ne.symm h)
  unfold visit count
  split <;> rw [Std.HashMap.getD_insert, hne] <;> rfl

/-- A cell that was entered before keeps its place, and a new one goes to the end. -/
theorem order_visit (t : Tally) (c : Coord) :
    (t.visit c).order = if c ∈ t.order then t.order else t.order ++ [c] := by
  unfold visit
  split
  · next h => rw [if_pos ((t.listed c).mp h)]
  · next h => rw [if_neg fun hmem => h ((t.listed c).mpr hmem)]

/-- A cell that is not listed has no count. -/
theorem count_of_not_mem (t : Tally) {c : Coord} (h : c ∉ t.order) : t.count c = 0 :=
  Std.HashMap.getD_eq_fallback fun hmem => h ((t.listed c).mp hmem)

/-- A visit of a tally is one of the memory that it stands for. -/
theorem toVisits_visit (t : Tally) (c : Coord) : (t.visit c).toVisits = t.toVisits.visit c := by
  have hraised := t.count_visit_self c
  have hothers (d : Coord) (hd : d ≠ c) := t.count_visit_of_ne hd
  have hcells : Visits.listing (t.visit c).count (t.visit c).order =
      Visits.bump c (Visits.listing t.count t.order) := by
    rw [order_visit]
    split
    · next h => exact (Visits.bump_listing_of_mem t.once h hraised hothers).symm
    · next h =>
      rw [t.count_of_not_mem h] at hraised
      exact (Visits.bump_listing_of_not_mem h hraised hothers).symm
  exact congrArg Visits.mk hcells

/-! ### What is told -/

/-- A tally tells what a memory does. -/
structure Tells (t : Tally) (v : Visits) : Prop where
  /-- The same counts. -/
  count : ∀ c, t.count c = v.count c
  /-- Which cells were seen. -/
  has : ∀ c, t.has c = v.has c
  /-- The same cells in the same order, with the same counts. -/
  cells : t.cells = v.cells
  /-- How many there are. -/
  size : t.size = v.size
  /-- Whether there are any. -/
  isEmpty : t.isEmpty = v.isEmpty

/-- The memory that a tally stands for finds the counts of the table. -/
theorem count_toVisits (t : Tally) (c : Coord) : t.toVisits.count c = t.count c := by
  unfold Visits.count toVisits cells
  dsimp only
  rw [List.find?_map]
  split
  · next h =>
    obtain ⟨d, hd, rfl⟩ := Option.map_eq_some_iff.mp h
    have hfound := List.find?_some hd
    have hcell : d = c := eq_of_beq hfound
    rw [hcell]
  · next h =>
    refine (t.count_of_not_mem fun hmem => ?_).symm
    rw [Option.map_eq_none_iff, List.find?_eq_none] at h
    exact h c hmem (beq_self_eq_true c)

theorem tells_toVisits (t : Tally) : t.Tells t.toVisits where
  count c := (t.count_toVisits c).symm
  has c := by
    rw [Bool.eq_iff_iff, has, Std.HashMap.contains_iff_mem, t.listed, Visits.has, List.any_eq_true]
    constructor
    · exact fun h => ⟨_, List.mem_map_of_mem h, beq_self_eq_true c⟩
    · rintro ⟨entry, hentry, hcell⟩
      obtain ⟨d, hd, rfl⟩ := List.mem_map.mp hentry
      exact eq_of_beq hcell ▸ hd
  cells := rfl
  size := (List.length_map _).symm
  isEmpty := List.isEmpty_map.symm

/-! ### Walks -/

/-- A tally of a walk stands for the memory of the walk. -/
theorem toVisits_ofWalk (walk : List Coord) : (ofWalk walk).toVisits = Visits.ofWalk walk := by
  induction walk using List.reverseRecOn with
  | nil => rfl
  | append_singleton walk c ih =>
    have hlast : ofWalk (walk ++ [c]) = (ofWalk walk).visit c := List.foldl_concat ..
    rw [hlast, toVisits_visit, ih, Visits.ofWalk_append_singleton]

/-- A tally that was seeded stands for the memory of one cell. -/
theorem toVisits_seeded (start : Coord) : (seeded start).toVisits = .seeded start :=
  toVisits_visit empty start

end Tally

namespace Robot

/-- Whatever is asked of a robot, its memory tells what a tally does in which the cell
where it began was entered, and then the cells of its moves. -/
theorem tells_requestAll (grid : Grid) (start goal : Coord) (maxSteps : UInt32)
    (requests : List Request) :
    let r := (init grid start goal maxSteps).requestAll requests
    (Tally.ofWalk (r.trace.walkFrom start)).Tells r.visits := by
  intro r
  have hacts : Acts (init grid start goal maxSteps) r := acts_requestAll _ requests
  have hrecalls : Recalls start r := hacts.keep Action.recalls (recalls_init _ _ _ _)
  rw [hrecalls.visits, ← Tally.toVisits_ofWalk]
  exact Tally.tells_toVisits _

end Robot

end MazeRobot
