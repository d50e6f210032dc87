import Mathlib.Data.List.Nodup
import MazeRobot.Visits

/-!
# Tallies

A memory can be kept in two parts: a list of the cells in the order of their first
visit, and a table that tells how often each of them was entered. The table is asked
whether a cell is new, and only then the list grows, so that the two always hold the
same cells and no cell is listed twice.
-/

namespace MazeRobot

/-- The cells entered so far, and a table of their counts. -/
structure Tally where
  /-- The cells, in the order of their first visit. -/
  order : List Coord
  /-- How often each was entered. -/
  counts : Std.HashMap Coord UInt32
  /-- No cell is listed twice. -/
  once : order.Nodup
  /-- The table has the cells that are listed. -/
  listed : ∀ c, c ∈ counts ↔ c ∈ order

namespace Tally

/-- A tally of nothing. -/
def empty : Tally where
  order := []
  counts := ∅
  once := List.nodup_nil
  listed _ := iff_of_false Std.HashMap.not_mem_empty List.not_mem_nil

section Listed

variable {counts : Std.HashMap Coord UInt32} {order : List Coord} {c : Coord}

/-- A cell that is listed can have another count. -/
theorem listed_insert_of_mem (listed : ∀ d, d ∈ counts ↔ d ∈ order) (h : c ∈ counts)
    (count : UInt32) (d : Coord) : d ∈ counts.insert c count ↔ d ∈ order := by
  rw [Std.HashMap.mem_insert, beq_iff_eq, ← listed]
  exact or_iff_right_of_imp fun heq => heq ▸ h

/-- A new cell is listed as it gets its count. -/
theorem listed_insert_concat (listed : ∀ d, d ∈ counts ↔ d ∈ order) (count : UInt32)
    (d : Coord) : d ∈ counts.insert c count ↔ d ∈ order ++ [c] := by
  rw [Std.HashMap.mem_insert, beq_iff_eq, listed, List.mem_append, List.mem_singleton, or_comm,
    eq_comm]

theorem nodup_concat (listed : ∀ d, d ∈ counts ↔ d ∈ order) (once : order.Nodup)
    (h : c ∉ counts) : (order ++ [c]).Nodup :=
  List.concat_eq_append ▸ once.concat fun hmem => h ((listed c).mpr hmem)

end Listed

/-- The tally after one more visit of `c`. A new cell is listed and begins with a count
of zero. -/
def visit (t : Tally) (c : Coord) : Tally :=
  if h : c ∈ t.counts then
    { order := t.order
      counts := t.counts.insert c (t.counts[c] + 1)
      once := t.once
      listed := listed_insert_of_mem t.listed h _ }
  else
    { order := t.order ++ [c]
      counts := t.counts.insert c (0 + 1)
      once := nodup_concat t.listed t.once h
      listed := listed_insert_concat t.listed _ }

/-- A tally in which `start` was entered once. -/
def seeded (start : Coord) : Tally :=
  empty.visit start

/-- How often a cell was entered. -/
def count (t : Tally) (c : Coord) : UInt32 :=
  t.counts.getD c 0

/-- Whether a cell was ever entered. -/
def has (t : Tally) (c : Coord) : Bool :=
  t.counts.contains c

/-- The cells with their counts, each looked up in the table. -/
def cells (t : Tally) : List VisitedCell :=
  t.order.map fun c => ⟨c, t.count c⟩

/-- The number of distinct cells entered. -/
def size (t : Tally) : Nat :=
  t.order.length

/-- Whether no cell was entered yet. -/
def isEmpty (t : Tally) : Bool :=
  t.order.isEmpty

/-- The tally of a walk: its cells entered one after the other. -/
def ofWalk (walk : List Coord) : Tally :=
  walk.foldl visit empty

/-- The memory that a tally stands for. -/
def toVisits (t : Tally) : Visits :=
  ⟨t.cells⟩

end Tally

end MazeRobot
