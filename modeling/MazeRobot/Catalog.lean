import MazeRobot.Puzzle.Json

/-!
# Catalogs

A catalog holds puzzles in play order: by the place that they ask for, where one
that asks for none is given the last place there is, and the easier ones first
among equals. Puzzles that are alike in both keep the order in which they came.
-/

namespace MazeRobot

/-- Puzzles in play order. -/
structure Catalog where
  /-- The puzzles, the first to be played first. -/
  puzzles : List Puzzle
  deriving DecidableEq

namespace Catalog

/-- The number of a puzzle's place. A puzzle that asks for none gets the last
one. -/
def place (p : Puzzle) : Nat :=
  (p.order.getD 4294967295).toNat

/-- Whether a puzzle may be played before another one. -/
def precedes (p q : Puzzle) : Bool :=
  place p < place q || (place p == place q && p.difficulty.rank ≤ q.difficulty.rank)

/-- The catalog of some puzzles. -/
def ofList (puzzles : List Puzzle) : Catalog :=
  ⟨puzzles.mergeSort precedes⟩

/-- The first puzzle with a name. -/
def get? (c : Catalog) (id : String) : Option Puzzle :=
  c.puzzles.find? (·.id == id)

/-- How many puzzles there are. -/
def size (c : Catalog) : Nat :=
  c.puzzles.length

/-- Whether there is no puzzle. -/
def isEmpty (c : Catalog) : Bool :=
  c.puzzles.isEmpty

/-- A catalog as an array. -/
def toJson (c : Catalog) : Json :=
  .array (c.puzzles.map Puzzle.toJson)

/-- Why a file holds no catalog. -/
inductive FileFault where
  /-- It cannot be read. -/
  | unreadable (path : String) (fault : Disk.Fault)
  /-- It holds no JSON of puzzles. -/
  | malformed (path : String) (fault : Fault)
  /-- One of its puzzles cannot be played. -/
  | defective (defect : Puzzle.Defect)
  deriving DecidableEq, Repr

/-- What is told about the fault of a file. -/
def FileFault.explanation : FileFault → Explanation
  | unreadable path fault => ⟨"reading puzzle catalog " ++ path, [.plain fault.message]⟩
  | malformed path fault => ⟨"parsing puzzle catalog " ++ path, [.json fault]⟩
  | defective defect => defect.explanation

/-- The first defect of some puzzles, if there is one. -/
def validateAll : List Puzzle → Except Puzzle.Defect Unit
  | [] => .ok ()
  | p :: rest =>
    match p.validate with
    | .error defect => .error defect
    | .ok () => validateAll rest

/-- Reads a catalog from what a file holds. All its puzzles must be fit to be
played. -/
def ofFile (path : String) (content : Except Disk.Fault String) : Except FileFault Catalog :=
  match content with
  | .error fault => .error (.unreadable path fault)
  | .ok text =>
    match Decoder.text (Decoder.list Puzzle.decode) text with
    | .error fault => .error (.malformed path fault)
    | .ok puzzles =>
      match validateAll puzzles with
      | .error defect => .error (.defective defect)
      | .ok () => .ok (ofList puzzles)

end Catalog

end MazeRobot
