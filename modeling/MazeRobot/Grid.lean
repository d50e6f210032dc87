import MazeRobot.Coord

/-!
# Grids

A grid is a rectangle of cells with at least one row and one column. It is
read from rows of small numeric codes; the first defect in reading order is
the one reported. Looking a coordinate up is total: outside the rectangle
there is no cell, and a coordinate without a cell is neither a wall nor
passable.
-/

namespace MazeRobot

/-- What stands on one square of a maze. -/
inductive Cell where
  /-- Open floor. -/
  | empty
  /-- A wall; nothing can stand here. -/
  | wall
  /-- Open floor where a robot may begin. -/
  | start
  /-- Open floor painted as a goal; the goal itself is named separately. -/
  | goalMarker
  deriving DecidableEq, Repr, Inhabited

namespace Cell

/-- The numeric code of a cell. -/
def code : Cell → UInt8
  | empty => 0
  | wall => 1
  | start => 2
  | goalMarker => 3

/-- The cell that a code stands for; codes above three stand for none. -/
def ofCode? (code : UInt8) : Option Cell :=
  if code = 0 then some empty
  else if code = 1 then some wall
  else if code = 2 then some start
  else if code = 3 then some goalMarker
  else none

theorem ofCode?_code (cell : Cell) : ofCode? cell.code = some cell := by
  cases cell <;> rfl

theorem code_of_ofCode? {code : UInt8} {cell : Cell} (h : ofCode? code = some cell) :
    cell.code = code := by
  unfold ofCode? at h
  split at h
  · next hc => cases h; exact hc.symm
  split at h
  · next hc => cases h; exact hc.symm
  split at h
  · next hc => cases h; exact hc.symm
  split at h
  · next hc => cases h; exact hc.symm
  · cases h

/-- Whether the cell blocks the way. -/
def isWall (cell : Cell) : Bool :=
  cell == wall

end Cell

/-- Why rows of codes are no grid, or why a grid cannot be entered. -/
inductive GridDefect where
  /-- There is no row, or the first row has no cell. -/
  | empty
  /-- A row differs in length from the first one. -/
  | ragged (row expected actual : Nat)
  /-- A code that stands for no cell. -/
  | unknownCell (code : UInt8) (x y : Nat)
  /-- No cell of the grid is a start cell. -/
  | noStart
  deriving DecidableEq, Repr

namespace GridDefect

/-- The wording of a defect. -/
def message : GridDefect → String
  | empty => "Grid has no rows"
  | ragged row expected actual =>
    s!"Grid row {row} has {actual} cells, expected {expected}"
  | unknownCell code x y => s!"Unknown cell code {code.toNat} at ({x}, {y})"
  | noStart => "Grid has no start cell"

end GridDefect

/-- A non-empty rectangle of cells. -/
structure Grid where
  /-- The rows, northernmost first. -/
  rows : List (List Cell)
  /-- The number of columns. -/
  width : Nat
  /-- There is a row. -/
  rows_ne_nil : rows ≠ []
  /-- There is a column. -/
  width_pos : 0 < width
  /-- All rows are equally long. -/
  rectangular : ∀ row ∈ rows, row.length = width

namespace Grid

instance : DecidableEq Grid := fun g h =>
  if e : g.rows = h.rows ∧ g.width = h.width then
    isTrue (by cases g; cases h; cases e.1; cases e.2; rfl)
  else
    isFalse (fun same => e (same ▸ ⟨rfl, rfl⟩))

/-- The number of rows. -/
def height (g : Grid) : Nat :=
  g.rows.length

/-- Reads the cells of row `y`, of which the first stands in column `x`. -/
def readRow (y : Nat) : Nat → List UInt8 → Except GridDefect (List Cell)
  | _, [] => .ok []
  | x, code :: rest =>
    match Cell.ofCode? code with
    | none => .error (.unknownCell code x y)
    | some cell =>
      match readRow y (x + 1) rest with
      | .error defect => .error defect
      | .ok cells => .ok (cell :: cells)

/-- Reads rows of `width` cells, of which the first is row `y`. The length of
a row is checked before its cells. -/
def readRows (width : Nat) : Nat → List (List UInt8) → Except GridDefect (List (List Cell))
  | _, [] => .ok []
  | y, codes :: rest =>
    if codes.length ≠ width then .error (.ragged y width codes.length)
    else
      match readRow y 0 codes with
      | .error defect => .error defect
      | .ok row =>
        match readRows width (y + 1) rest with
        | .error defect => .error defect
        | .ok rows => .ok (row :: rows)

/-- A row that reads well gives one cell for each code. -/
theorem readRow_length {y x : Nat} {codes : List UInt8} {cells : List Cell}
    (h : readRow y x codes = .ok cells) : cells.length = codes.length := by
  induction codes generalizing x cells with
  | nil => cases h; rfl
  | cons code rest ih =>
    simp only [readRow] at h
    split at h
    · cases h
    split at h
    · cases h
    · next hr => cases h; simp only [List.length_cons, ih hr]

/-- All rows that were read have the width that was asked for. -/
theorem readRows_rectangular {width y : Nat} {codes : List (List UInt8)}
    {rows : List (List Cell)} (h : readRows width y codes = .ok rows) :
    ∀ row ∈ rows, row.length = width := by
  induction codes generalizing y rows with
  | nil => cases h; simp
  | cons first rest ih =>
    simp only [readRows] at h
    split at h
    · cases h
    next hw =>
    split at h
    · cases h
    next row hrow =>
    split at h
    · cases h
    next more hmore =>
    cases h
    intro r hr
    cases hr with
    | head => rw [readRow_length hrow]; exact Decidable.not_not.mp hw
    | tail _ hr => exact ih hmore r hr

/-- There are as many rows as rows of codes. -/
theorem readRows_length {width y : Nat} {codes : List (List UInt8)}
    {rows : List (List Cell)} (h : readRows width y codes = .ok rows) :
    rows.length = codes.length := by
  induction codes generalizing y rows with
  | nil => cases h; rfl
  | cons first rest ih =>
    simp only [readRows] at h
    split at h
    · cases h
    split at h
    · cases h
    split at h
    · cases h
    next more hmore => cases h; simp only [List.length_cons, ih hmore]

/-- Reads a grid from rows of codes. The width is that of the first row. -/
def ofCodes (codes : List (List UInt8)) : Except GridDefect Grid :=
  match codes with
  | [] => .error .empty
  | first :: rest =>
    if hw : first.length = 0 then .error .empty
    else
      match hr : readRows first.length 0 (first :: rest) with
      | .error defect => .error defect
      | .ok rows =>
        .ok {
          rows := rows
          width := first.length
          rows_ne_nil := by
            intro hn
            have hl := readRows_length hr
            simp [hn] at hl
          width_pos := Nat.pos_of_ne_zero hw
          rectangular := readRows_rectangular hr }

/-- The rows of codes of a grid. -/
def toCodes (g : Grid) : List (List UInt8) :=
  g.rows.map (·.map Cell.code)

/-- Whether a coordinate lies in the rectangle. -/
def inBounds (g : Grid) (c : Coord) : Bool :=
  0 ≤ c.x.toInt && 0 ≤ c.y.toInt &&
    (c.x.toInt.toNat < g.width && c.y.toInt.toNat < g.height)

/-- The cell at a coordinate, if the coordinate lies in the rectangle. -/
def cell? (g : Grid) (c : Coord) : Option Cell :=
  if g.inBounds c then
    (g.rows[c.y.toInt.toNat]?).bind (·[c.x.toInt.toNat]?)
  else none

/-- Whether a wall stands at a coordinate. Outside the grid there is none. -/
def isWall (g : Grid) (c : Coord) : Bool :=
  (g.cell? c).any Cell.isWall

/-- Whether a robot can stand at a coordinate: there is a cell, and it is no
wall. -/
def isPassable (g : Grid) (c : Coord) : Bool :=
  (g.cell? c).any (fun cell => !cell.isWall)

/-- The first start cell of the rows, reading each row eastwards and the rows
southwards; `y` is the number of the first row. -/
def startFrom (y : Nat) : List (List Cell) → Option Coord
  | [] => none
  | row :: rest =>
    match row.findIdx? (· == Cell.start) with
    | some x => some ⟨Int32.ofNat x, Int32.ofNat y⟩
    | none => startFrom (y + 1) rest

/-- Where a robot begins: the first start cell in reading order. -/
def findStart (g : Grid) : Except GridDefect Coord :=
  match startFrom 0 g.rows with
  | some c => .ok c
  | none => .error .noStart

end Grid

end MazeRobot
