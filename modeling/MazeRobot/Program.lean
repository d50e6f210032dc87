import MazeRobot.Catalog.Builtin
import MazeRobot.Config.File
import MazeRobot.Options
import MazeRobot.FileReading
import MazeRobot.Report.Json
import MazeRobot.Simulator
import MazeRobot.Store.Files

/-!
# The program

What the program does with its options: it reads the files that they name and
shows something. What is shown comes in pieces, each after a pause, so that a
run can be watched as it goes. What was shown before a failure stays shown.
-/

namespace MazeRobot.Program

/-- Why the program could not do what it was asked to. -/
inductive Fault where
  /-- No configuration. -/
  | config (fault : Config.FileFault)
  /-- No catalog. -/
  | catalog (fault : Catalog.FileFault)
  /-- No puzzle with this name. -/
  | unknownPuzzle (id : String)
  /-- No puzzle at all. -/
  | noPuzzle
  /-- No script in the file. -/
  | script (path : String) (fault : Disk.Fault)
  /-- No script in the store. -/
  | store (fault : Store.Fault)
  /-- No run in this grid. -/
  | grid (defect : GridDefect)
  deriving DecidableEq, Repr

/-- What is told about a fault. -/
def Fault.explanation : Fault → Explanation
  | config fault => fault.explanation
  | catalog fault => fault.explanation
  | unknownPuzzle id => .plain s!"Unknown puzzle '{id}'. Use --mode list to see them."
  | noPuzzle => .plain "Puzzle catalog is empty"
  | script path fault => ⟨"Failed to read script " ++ path, [.plain fault.message]⟩
  | store fault => fault.explanation
  | grid defect => .plain defect.message

/-- What is shown, and the fault that ended it, if there was one. -/
structure Showing where
  /-- Pieces of text, each with the pause before it. -/
  pieces : List (Span × String)
  /-- Why there is no more. -/
  fault : Option Fault

namespace Showing

/-- A showing of one text. -/
def text (shown : String) : Showing := ⟨[(.zero, shown)], none⟩

/-- A showing of nothing but a fault. -/
def failed (fault : Fault) : Showing := ⟨[], some fault⟩

/-- All that is shown. -/
def output (s : Showing) : String :=
  String.join (s.pieces.map (·.2))

end Showing

/-- A text with blanks behind it, up to a width. -/
def padRight (width : Nat) (s : String) : String :=
  s ++ String.ofList (List.replicate (width - s.length) ' ')

/-- A text with blanks before it, up to a width. -/
def padLeft (width : Nat) (s : String) : String :=
  String.ofList (List.replicate (width - s.length) ' ') ++ s

/-- The line of a puzzle in a list. -/
def listLine (p : Puzzle) : String :=
  s!"{padRight 24 p.id} {padRight 7 p.difficulty.tag} " ++
    s!"{p.grid.width}x{p.grid.height}  {p.title}\n"

/-- Shows a catalog. -/
def list (c : Catalog) : Showing :=
  .text (String.join (c.puzzles.map listLine))

/-- Shows the report on a run as JSON. -/
def headless (config : Config) (puzzle : Puzzle) (code : String) : Showing :=
  match (Simulator.ofConfig config).execute puzzle code with
  | .error defect => .failed (.grid defect)
  | .ok report => .text (report.toJson.pretty ++ "\n")

/-- The line of a record that was applied. -/
def recordLine (index : Nat) (r : Record) : String :=
  s!"[{padLeft 4 (toString index)}] {r.position.text} {r.orientation.arrow}  {r.message}\n"

/-- The line of a run that is over. -/
def resultLine (r : RunResult) : String :=
  (if r.completed then "Run completed in " else "Run not completed in ") ++
    s!"{r.steps.toNat} steps\n"

/-- The line of a success. -/
def celebrationLine : String := "🎉 Goal reached!\n"

/-- What is shown of an event. -/
def eventText : Playback.Event → String
  | .applied index record => recordLine index record
  | .finished result => resultLine result
  | .celebrationStarted => celebrationLine
  | _ => ""

/-- Whether nothing will be shown after an event. -/
def isLast : Playback.Event → Bool
  | .finished result => !result.completed
  | .celebrationEnded => true
  | _ => false

/-- What is shown before a run. -/
def heading (puzzle : Puzzle) : String :=
  s!"{puzzle.title} ({puzzle.difficulty.name})\n" ++ puzzle.render

/-- What is shown of groups of events. -/
def eventPieces (groups : List (Span × List Playback.Event)) : List (Span × String) :=
  groups.map fun (pause, events) => (pause, String.join (events.map eventText))

/-- Shows a run as it goes. -/
def play (config : Config) (puzzle : Puzzle) (code : String) : Showing :=
  let simulator := Simulator.ofConfig config
  match simulator.runBeside (.command .zero) puzzle code with
  | (_, .error defect) => ⟨[(.zero, heading puzzle)], some (.grid defect)⟩
  | (simulator, .ok ()) =>
    let groups := (simulator.session.map (·.awaitEvent isLast)).elim [] (·.1)
    ⟨(.zero, heading puzzle) :: eventPieces groups, none⟩

/-- The puzzle to play: the one with the wanted name, or else the first. -/
def choose (c : Catalog) : Option String → Except Fault Puzzle
  | some id =>
    match c.get? id with
    | some puzzle => .ok puzzle
    | none => .error (.unknownPuzzle id)
  | none =>
    match c.puzzles with
    | puzzle :: _ => .ok puzzle
    | [] => .error .noPuzzle

/-- The configuration of a file, or else the default one. -/
def readConfig : Option String → FileReading (Except Fault Config)
  | none => pure (.ok {})
  | some path => do
    match Config.ofFile path (← .file path) with
    | .error fault => return .error (.config fault)
    | .ok config => return .ok config

/-- The catalog of a file, or else the built-in one. -/
def readCatalog : Option String → FileReading (Except Fault Catalog)
  | none => pure (.ok Catalog.builtin)
  | some path => do
    match Catalog.ofFile path (← .file path) with
    | .error fault => return .error (.catalog fault)
    | .ok catalog => return .ok catalog

/-- The script of a puzzle for a team in a store. -/
def readStored (root puzzle team : String) : FileReading (Except Fault String) :=
  match Store.fileOf root puzzle team with
  | .error fault => pure (.error (.store fault))
  | .ok path => do
    match Store.ofFile path (← .file path) with
    | .error fault => return .error (.store fault)
    | .ok saved => return .ok (Store.orStarter saved)

/-- The script to run: that of a file, or else that of a team in a store, or
else the starter script. -/
def readScript (o : Options) (puzzle : String) : FileReading (Except Fault String) :=
  match o.script, o.store, o.team with
  | some path, _, _ => do
    match ← FileReading.file path with
    | .error fault => return .error (.script path fault)
    | .ok code => return .ok code
  | none, some root, some team => readStored root puzzle team
  | none, _, _ => pure (.ok Script.starter)

/-- Shows the run of a puzzle. -/
def showRun (o : Options) (config : Config) (puzzle : Puzzle) : FileReading Showing := do
  match ← readScript o puzzle.id with
  | .error fault => return .failed fault
  | .ok code =>
    match o.mode with
    | .headless => return headless config puzzle code
    | _ => return play config puzzle code

/-- Does what the options ask for. -/
def run (o : Options) : FileReading Showing := do
  match ← readConfig o.config with
  | .error fault => return .failed fault
  | .ok config =>
    match ← readCatalog o.catalog with
    | .error fault => return .failed fault
    | .ok catalog =>
      if o.mode = .list then return list catalog
      else
        match choose catalog o.puzzle with
        | .error fault => return .failed fault
        | .ok puzzle => showRun o (config.overriddenBy o.overrides) puzzle

end MazeRobot.Program
