import MazeRobot.Coord

/-!
# Visit memory

A memory counts how often each cell was entered. It keeps the cells in the
order of their first visit, each once, with a count of at least one. Cells it
never saw count zero.
-/

namespace MazeRobot

/-- A cell that was entered, and how often. -/
structure VisitedCell where
  /-- The cell. -/
  cell : Coord
  /-- How often it was entered. -/
  count : UInt32
  deriving DecidableEq, Repr

/-- The cells entered so far, in the order of their first visit. -/
structure Visits where
  /-- Each cell once, with its count. -/
  cells : List VisitedCell
  deriving DecidableEq, Repr

namespace Visits

/-- A memory of nothing. -/
def none : Visits := ⟨[]⟩

/-- Counts one more visit of `c`: an entry is raised where it stands, a new
cell goes to the end. -/
def bump (c : Coord) : List VisitedCell → List VisitedCell
  | [] => [⟨c, 1⟩]
  | entry :: rest =>
    if entry.cell = c then ⟨c, entry.count + 1⟩ :: rest
    else entry :: bump c rest

/-- The memory after one more visit. -/
def visit (v : Visits) (c : Coord) : Visits :=
  ⟨bump c v.cells⟩

/-- A memory in which `start` was entered once. -/
def seeded (start : Coord) : Visits :=
  none.visit start

/-- How often a cell was entered. -/
def count (v : Visits) (c : Coord) : UInt32 :=
  match v.cells.find? (·.cell == c) with
  | some entry => entry.count
  | .none => 0

/-- Whether a cell was ever entered. -/
def has (v : Visits) (c : Coord) : Bool :=
  v.cells.any (·.cell == c)

/-- The number of distinct cells entered. -/
def size (v : Visits) : Nat :=
  v.cells.length

/-- Whether no cell was entered yet. -/
def isEmpty (v : Visits) : Bool :=
  v.cells.isEmpty

/-- The memory of a walk: its cells entered one after the other. -/
def ofWalk (walk : List Coord) : Visits :=
  walk.foldl visit none

theorem ofWalk_append_singleton (walk : List Coord) (c : Coord) :
    ofWalk (walk ++ [c]) = (ofWalk walk).visit c := by
  simp only [ofWalk, List.foldl_append, List.foldl_cons, List.foldl_nil]

/-- A visited cell is remembered. -/
theorem has_visit (v : Visits) (c d : Coord) :
    (v.visit c).has d = (v.has d || c == d) := by
  unfold visit has
  induction v.cells with
  | nil => simp [bump]
  | cons entry rest ih =>
    by_cases h : entry.cell = c
    · subst h
      simp only [bump, if_true, List.any_cons]
      cases entry.cell == d <;> simp
    · simp only [bump, h, if_false, List.any_cons, ih, Bool.or_assoc]

end Visits

end MazeRobot
