import MazeRobot.Grid
import MazeRobot.Heading

/-!
# Cells of a grid

A coordinate has a cell exactly if it lies in the rectangle, so a robot can
stand exactly on the cells that are in bounds and no wall. In a grid whose
sides fit into a coordinate, the start cell is such a cell and a step out of
any cell is counted without wrapping around.
-/

namespace MazeRobot

namespace Coord

/-- One coordinate lies at an offset from another, counted in integers. The
words hold the sums, so nothing wraps around on the way. -/
def IsAt (there here delta : Coord) : Prop :=
  there.x.toInt = here.x.toInt + delta.x.toInt ∧ there.y.toInt = here.y.toInt + delta.y.toInt

end Coord

namespace Heading

/-- A step changes each component by one at most. -/
theorem delta_bounds (h : Heading) :
    (-1 ≤ h.delta.x.toInt ∧ h.delta.x.toInt ≤ 1) ∧
      (-1 ≤ h.delta.y.toInt ∧ h.delta.y.toInt ≤ 1) := by
  cases h <;> decide

end Heading

namespace Grid

/-- Every column and row of the grid has a number among the coordinates. -/
def Addressable (g : Grid) : Prop :=
  (g.width : Int) ≤ Int32.maxValue.toInt ∧ (g.height : Int) ≤ Int32.maxValue.toInt

instance (g : Grid) : Decidable g.Addressable :=
  inferInstanceAs (Decidable (_ ∧ _))

/-- Being in bounds, in integers. -/
theorem inBounds_iff (g : Grid) (c : Coord) :
    g.inBounds c = true ↔
      (0 ≤ c.x.toInt ∧ c.x.toInt < g.width) ∧ (0 ≤ c.y.toInt ∧ c.y.toInt < g.height) := by
  simp only [inBounds, Bool.and_eq_true, decide_eq_true_eq]
  omega

/-- A coordinate in bounds has a cell. -/
theorem exists_cell_of_inBounds {g : Grid} {c : Coord} (h : g.inBounds c = true) :
    ∃ cell, g.cell? c = some cell := by
  obtain ⟨⟨hx, hw⟩, hy, hh⟩ := (inBounds_iff g c).mp h
  have hrow : c.y.toInt.toNat < g.rows.length := by
    rw [height] at hh
    omega
  have hlen := g.rectangular _ (List.getElem_mem hrow)
  have hcol : c.x.toInt.toNat < g.rows[c.y.toInt.toNat].length := by omega
  refine ⟨g.rows[c.y.toInt.toNat][c.x.toInt.toNat], ?_⟩
  rw [cell?, if_pos h, List.getElem?_eq_getElem hrow, Option.bind_some,
    List.getElem?_eq_getElem hcol]

/-- A coordinate with a cell is in bounds. -/
theorem inBounds_of_cell? {g : Grid} {c : Coord} {cell : Cell} (h : g.cell? c = some cell) :
    g.inBounds c = true := by
  unfold cell? at h
  split at h
  · assumption
  · cases h

/-- A robot can stand on the cells that are in bounds and no wall. -/
theorem isPassable_iff (g : Grid) (c : Coord) :
    g.isPassable c = true ↔ g.inBounds c = true ∧ g.isWall c = false := by
  rw [isPassable, isWall]
  cases hc : g.cell? c with
  | none =>
    have hb : ¬g.inBounds c = true := fun hb => by
      obtain ⟨cell, hs⟩ := exists_cell_of_inBounds hb
      rw [hc] at hs
      cases hs
    simp only [Option.any_none, Bool.false_eq_true, hb, false_and]
  | some cell =>
    have hb := inBounds_of_cell? hc
    simp only [Option.any_some, Bool.not_eq_true', hb, true_and]

/-- A step out of a cell never wraps around. -/
theorem isAt_offset {g : Grid} (ha : g.Addressable) {c : Coord} (hc : g.inBounds c = true)
    (h : Heading) : (c.offset h.delta).IsAt c h.delta := by
  obtain ⟨hw, hh⟩ := ha
  obtain ⟨⟨hx, hxw⟩, hy, hyh⟩ := (inBounds_iff g c).mp hc
  obtain ⟨⟨dx, ex⟩, dy, ey⟩ := h.delta_bounds
  -- From the last column or row a step still leads to a number that a word holds.
  rw [Int32.toInt_maxValue] at hw hh
  constructor
  · rw [Coord.offset, Int32.toInt_add]
    exact Int.bmod_eq_of_le_mul_two (by omega) (by omega)
  · rw [Coord.offset, Int32.toInt_add]
    exact Int.bmod_eq_of_le_mul_two (by omega) (by omega)

/-- The start that the rows give is the coordinate of one of their start
cells. -/
theorem startFrom_eq_some {y : Nat} {rows : List (List Cell)} {c : Coord}
    (h : startFrom y rows = some c) :
    ∃ i x row, rows[i]? = some row ∧ row[x]? = some .start ∧
      c = ⟨Int32.ofNat x, Int32.ofNat (y + i)⟩ := by
  induction rows generalizing y with
  | nil => cases h
  | cons row rest ih =>
    rw [startFrom] at h
    split at h
    · next x hx =>
      obtain ⟨hlt, hcell, _⟩ := List.findIdx?_eq_some_iff_getElem.mp hx
      refine ⟨0, x, row, rfl, ?_, (Option.some.inj h).symm⟩
      rw [List.getElem?_eq_getElem hlt, eq_of_beq hcell]
    · obtain ⟨i, x, found, hi, hx, hc⟩ := ih h
      refine ⟨i + 1, x, found, hi, hx, ?_⟩
      rw [hc, Nat.add_right_comm, Nat.add_assoc]

/-- The start of a grid is a start cell. -/
theorem cell?_of_findStart {g : Grid} (ha : g.Addressable) {c : Coord}
    (h : g.findStart = .ok c) : g.cell? c = some .start := by
  have hs : startFrom 0 g.rows = some c := by
    unfold findStart at h
    split at h
    · cases h
      assumption
    · cases h
  obtain ⟨y, x, row, hrow, hcell, rfl⟩ := startFrom_eq_some hs
  obtain ⟨hw, hh⟩ := ha
  obtain ⟨hy, rfl⟩ := List.getElem?_eq_some_iff.mp hrow
  obtain ⟨hx, _⟩ := List.getElem?_eq_some_iff.mp hcell
  have hlen := g.rectangular _ (List.getElem_mem hy)
  rw [Int32.toInt_maxValue] at hw hh
  rw [height] at hh
  have hxv : (Int32.ofNat x).toInt = x := Int32.toInt_ofNat_of_lt (by omega)
  have hyv : (Int32.ofNat y).toInt = y := Int32.toInt_ofNat_of_lt (by omega)
  have hb : g.inBounds ⟨Int32.ofNat x, Int32.ofNat (0 + y)⟩ = true := by
    rw [inBounds_iff, height, Nat.zero_add, hxv, hyv]
    omega
  rw [cell?, if_pos hb, Nat.zero_add, hxv, hyv, Int.toNat_natCast, Int.toNat_natCast, hrow,
    Option.bind_some, hcell]

/-- A robot can stand on a start cell. -/
theorem isPassable_of_start {g : Grid} {c : Coord} (h : g.cell? c = some .start) :
    g.isPassable c = true := by
  rw [isPassable, h]
  rfl

/-- The start of a grid is a cell that a robot can stand on. -/
theorem isPassable_of_findStart {g : Grid} (ha : g.Addressable) {c : Coord}
    (h : g.findStart = .ok c) : g.isPassable c = true :=
  isPassable_of_start (cell?_of_findStart ha h)

/-- A small grid with two walls, entered from the west. -/
def crossing : Grid where
  rows := [[.empty, .wall, .empty], [.start, .empty, .empty], [.empty, .wall, .empty]]
  width := 3
  rows_ne_nil := by decide
  width_pos := by decide
  rectangular := by decide

end Grid

end MazeRobot
