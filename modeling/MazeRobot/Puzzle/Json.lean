import MazeRobot.Disk
import MazeRobot.Grid.Json
import MazeRobot.Puzzle
import MazeRobot.Trace.Json

/-!
# Puzzles as JSON

The description, the order, the hint and the solution may be left out. A
puzzle that was read is checked before it is used.
-/

namespace MazeRobot.Puzzle

/-- A value that may be absent, as JSON. -/
def nullable {α : Type} (toJson : α → Json) : Option α → Json
  | none => .null
  | some a => toJson a

/-- A puzzle as an object. -/
def toJson (p : Puzzle) : Json :=
  .object [
    ("id", .string p.id),
    ("title", .string p.title),
    ("description", .string p.description),
    ("difficulty", .string p.difficulty.tag),
    ("order", nullable (fun n => .number n.toNat) p.order),
    ("grid", p.grid.toJson),
    ("goal", p.goal.toJson),
    ("hint", nullable .string p.hint),
    ("solution", nullable .string p.solution)]

/-- A puzzle under construction. -/
structure Draft where
  /-- The name to choose it by. -/
  id : Option String := none
  /-- The name to show. -/
  title : Option String := none
  /-- What it is about. -/
  description : Option String := none
  /-- How hard it is. -/
  difficulty : Option Difficulty := none
  /-- Its place in a catalog. -/
  order : Option (Option UInt32) := none
  /-- The maze. -/
  grid : Option Grid := none
  /-- Where the robot is meant to go. -/
  goal : Option Coord := none
  /-- A hint. -/
  hint : Option (Option String) := none
  /-- A script that solves it. -/
  solution : Option (Option String) := none

/-- The puzzle of a draft, if nothing is missing that may not be left out. -/
def Draft.finish (d : Draft) : Option Puzzle := do
  return {
    id := ← d.id
    title := ← d.title
    description := d.description.getD ""
    difficulty := ← d.difficulty
    order := d.order.getD none
    grid := ← d.grid
    goal := ← d.goal
    hint := d.hint.getD none
    solution := d.solution.getD none }

/-- Reads a puzzle. -/
def decode : Decoder Puzzle :=
  Decoder.record (σ := Draft)
    [Decoder.field "id" Draft.id (fun d v => { d with id := some v }) Decoder.string,
     Decoder.field "title" Draft.title (fun d v => { d with title := some v }) Decoder.string,
     Decoder.field "description" Draft.description (fun d v => { d with description := some v })
       Decoder.string,
     Decoder.field "difficulty" Draft.difficulty (fun d v => { d with difficulty := some v })
       (Decoder.word Difficulty.ofTag?),
     Decoder.field "order" Draft.order (fun d v => { d with order := some v })
       (Decoder.nullable Decoder.uint32),
     Decoder.field "grid" Draft.grid (fun d v => { d with grid := some v }) Grid.decode,
     Decoder.field "goal" Draft.goal (fun d v => { d with goal := some v }) Coord.decode,
     Decoder.field "hint" Draft.hint (fun d v => { d with hint := some v })
       (Decoder.nullable Decoder.string),
     Decoder.field "solution" Draft.solution (fun d v => { d with solution := some v })
       (Decoder.nullable Decoder.string)]
    {} Draft.finish

/-- Why a text is no puzzle that can be played. -/
inductive TextFault where
  /-- It is no JSON of a puzzle. -/
  | malformed (fault : Fault)
  /-- The puzzle cannot be played. -/
  | defective (defect : Defect)
  deriving DecidableEq, Repr

/-- What is told about the fault of a text. -/
def TextFault.explanation : TextFault → Explanation
  | malformed fault => ⟨"parsing puzzle JSON", [.json fault]⟩
  | defective defect => defect.explanation

/-- Reads a puzzle that can be played. -/
def ofText (text : String) : Except TextFault Puzzle :=
  match Decoder.text decode text with
  | .error fault => .error (.malformed fault)
  | .ok puzzle =>
    match puzzle.validate with
    | .error defect => .error (.defective defect)
    | .ok () => .ok puzzle

/-- Why a file holds no puzzle that can be played. -/
inductive FileFault where
  /-- It cannot be read. -/
  | unreadable (path : String) (fault : Disk.Fault)
  /-- Its text does not do. -/
  | unusable (path : String) (fault : TextFault)
  deriving DecidableEq, Repr

/-- What is told about the fault of a file. -/
def FileFault.explanation : FileFault → Explanation
  | unreadable path fault => ⟨"reading puzzle file " ++ path, [.plain fault.message]⟩
  | unusable path fault => fault.explanation.within ("loading puzzle " ++ path)

/-- Reads a puzzle that can be played from what a file holds. -/
def ofFile (path : String) (content : Except Disk.Fault String) : Except FileFault Puzzle :=
  match content with
  | .error fault => .error (.unreadable path fault)
  | .ok text =>
    match ofText text with
    | .error fault => .error (.unusable path fault)
    | .ok puzzle => .ok puzzle

end MazeRobot.Puzzle
