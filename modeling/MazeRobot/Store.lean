import MazeRobot.Disk
import MazeRobot.Explanation
import MazeRobot.Script.Starter

/-!
# Stores of scripts

A store keeps the script of every team for every puzzle, with a revision that
grows by one whenever it is saved. What a store is made of is its own business:
it is given by how it loads and how it saves. A save that fails may leave the
store in another state, so saving gives the state in any case.
-/

namespace MazeRobot

/-- A script that was saved. -/
structure SavedCode where
  /-- The script. -/
  code : String
  /-- How often a script was saved in this place. -/
  revision : UInt64
  deriving DecidableEq, Repr

/-- Why a store could not load or save. -/
inductive Store.Fault where
  /-- No name of a team or a puzzle. -/
  | badKey (name : String)
  /-- A file cannot be read. -/
  | unreadable (path : String) (fault : Disk.Fault)
  /-- A file holds no saved script. -/
  | malformed (path : String) (fault : MazeRobot.Fault)
  /-- A directory cannot be made. -/
  | noDirectory (path : String) (fault : Disk.Fault)
  /-- A file cannot be written. -/
  | unwritable (path : String) (fault : Disk.Fault)
  deriving DecidableEq, Repr

/-- What is told about a fault. -/
def Store.Fault.explanation : Store.Fault → Explanation
  | badKey name =>
    .plain s!"'{name}' is not a valid store key (use letters, digits, '-' and '_')"
  | unreadable path fault => ⟨"reading saved code " ++ path, [.plain fault.message]⟩
  | malformed path fault => ⟨"parsing saved code " ++ path, [.json fault]⟩
  | noDirectory path fault => ⟨"creating store directory " ++ path, [.plain fault.message]⟩
  | unwritable path fault => ⟨"writing saved code " ++ path, [.plain fault.message]⟩

/-- A store with states of type `σ`. -/
structure Store (σ : Type) where
  /-- The script of a puzzle for a team, if there is one. -/
  load : σ → (puzzle team : String) → Except Store.Fault (Option SavedCode)
  /-- Saves a script of a puzzle for a team. -/
  save : σ → (puzzle team code : String) → σ × Except Store.Fault SavedCode

namespace Store

/-- The revision after what was loaded. -/
def nextRevision : Option SavedCode → UInt64
  | some saved => saved.revision + 1
  | none => 1

/-- The script of what was loaded, or the starter script. -/
def orStarter : Option SavedCode → String
  | some saved => saved.code
  | none => Script.starter

/-- The script of a puzzle for a team, or the starter script. -/
def codeOrStarter {σ : Type} (store : Store σ) (state : σ) (puzzle team : String) :
    Except Fault String :=
  match store.load state puzzle team with
  | .error fault => .error fault
  | .ok saved => .ok (orStarter saved)

end Store

end MazeRobot
