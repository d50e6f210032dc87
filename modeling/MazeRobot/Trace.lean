import MazeRobot.Heading

/-!
# Traces

A trace is the ordered record of one run. Every record carries the position
and heading of the robot right after the action it describes, so a trace can
be replayed without running anything again. Moves and turns are steps; log
records are not.
-/

namespace MazeRobot

/-- What a record is about. -/
inductive ActionKind where
  /-- The robot went one cell ahead. -/
  | move
  /-- The robot made a quarter turn. -/
  | turn
  /-- A line for the console; the robot stayed as it was. -/
  | log
  deriving DecidableEq, Repr

namespace ActionKind

/-- The written form of a kind. -/
def tag : ActionKind → String
  | move => "move"
  | turn => "turn"
  | log => "log"

/-- The kind that a written form stands for. -/
def ofTag? (tag : String) : Option ActionKind :=
  if tag = "move" then some move
  else if tag = "turn" then some turn
  else if tag = "log" then some log
  else none

/-- The name of a kind. -/
def name : ActionKind → String
  | move => "Move"
  | turn => "Turn"
  | log => "Log"

theorem ofTag?_tag (k : ActionKind) : ofTag? k.tag = some k := by
  cases k <;> rfl

end ActionKind

/-- One action, with the state of the robot right after it. -/
structure Record where
  /-- What the record is about. -/
  kind : ActionKind
  /-- Where the robot stands after the action. -/
  position : Coord
  /-- Which way it faces after the action. -/
  orientation : Heading
  /-- The line for the console. -/
  message : String
  deriving DecidableEq, Repr

namespace Record

/-- Whether the record counts as a step. -/
def isStep (r : Record) : Bool :=
  r.kind != .log

end Record

/-- The ordered record of one run. -/
structure Trace where
  /-- The records, oldest first. -/
  records : Array Record
  deriving DecidableEq, Repr

namespace Trace

/-- A trace without records. -/
def empty : Trace := ⟨#[]⟩

/-- The trace with one more record at its end. -/
def push (t : Trace) (r : Record) : Trace :=
  ⟨t.records.push r⟩

/-- The number of records. -/
def length (t : Trace) : Nat :=
  t.records.size

/-- The record at an index, counted from zero. -/
def get? (t : Trace) (index : Nat) : Option Record :=
  t.records[index]?

/-- The latest record. -/
def last? (t : Trace) : Option Record :=
  t.records.back?

/-- The records, oldest first. -/
def toList (t : Trace) : List Record :=
  t.records.toList

/-- How many records are of one kind. -/
def countOf (t : Trace) (kind : ActionKind) : Nat :=
  t.toList.countP (·.kind == kind)

/-- How many records are steps, as a 32-bit word. -/
def stepCount (t : Trace) : UInt32 :=
  UInt32.ofNat (t.toList.countP Record.isStep)

@[simp] theorem toList_empty : empty.toList = [] := rfl

@[simp] theorem toList_push (t : Trace) (r : Record) :
    (t.push r).toList = t.toList ++ [r] :=
  Array.toList_push

theorem length_push (t : Trace) (r : Record) : (t.push r).length = t.length + 1 :=
  Array.size_push r

theorem last?_push (t : Trace) (r : Record) : (t.push r).last? = some r :=
  Array.back?_push

end Trace

end MazeRobot
