import MazeRobot.Autosave.History
import MazeRobot.Store.Memory

/-!
# Autosaves at a shared shelf

The shelf that an autosave saves to is not its own: others save scripts there as
well. What happens at the shelf is what the autosave does and what they do, in
any order.
-/

namespace MazeRobot.Autosave

/-- Something that happens at a shelf. -/
inductive Deed where
  /-- The script of the autosave is edited. -/
  | edit (code : String)
  /-- Time goes by. -/
  | tick (elapsed : Span)
  /-- The autosave is to save at once. -/
  | flush
  /-- Somebody else saves a script. -/
  | elsewhere (puzzle team code : String)
  deriving DecidableEq, Repr

namespace Deed

/-- Whether nobody else saves under a key. -/
def Spares (key : String × String) : Deed → Prop
  | elsewhere puzzle team _ => (team, puzzle) ≠ key
  | edit _ | tick _ | flush => True

/-- Whether the autosave is left to itself, but for time that goes by. -/
def isRest : Deed → Bool
  | tick _ | elsewhere _ _ _ => true
  | edit _ | flush => false

/-- The time that goes by. -/
def elapsed? : Deed → Option Span
  | tick elapsed => some elapsed
  | edit _ | flush | elsewhere _ _ _ => none

/-- All time that goes by during some deeds. -/
def time (deeds : List Deed) : Span :=
  Span.total (deeds.filterMap elapsed?)

end Deed

/-- An autosave and the shelf after a deed. -/
def meet (a : Autosave) (shelf : Shelf) : Deed → Outcome Shelf
  | .edit code => a.act shelf (.edit code)
  | .tick elapsed => a.act shelf (.tick .inMemory elapsed)
  | .flush => a.act shelf (.flush .inMemory)
  | .elsewhere puzzle team code => ⟨a, (Store.inMemory.save shelf puzzle team code).1, .ok false⟩

/-- An autosave, the shelf and the scripts that the autosave saved, in order. -/
structure Ledger where
  /-- The autosave. -/
  autosave : Autosave
  /-- The shelf. -/
  shelf : Shelf
  /-- The scripts that were saved. -/
  scripts : List String

/-- The scripts that an autosave saved by a deed: the one that it had, or none. -/
def scriptsOf (a : Autosave) (o : Outcome Shelf) : List String :=
  match o.result with
  | .ok true => [a.buffer]
  | .ok false | .error _ => []

/-- Lives through deeds, one after the other. -/
def meetAll (a : Autosave) (shelf : Shelf) : List Deed → Ledger
  | [] => ⟨a, shelf, []⟩
  | deed :: rest =>
    let next := a.meet shelf deed
    let later := meetAll next.autosave next.state rest
    { later with scripts := scriptsOf a next ++ later.scripts }

/-- The shelf as the others alone would have left it. -/
def othersAlone (shelf : Shelf) : List Deed → Shelf
  | [] => shelf
  | .elsewhere puzzle team code :: rest =>
    othersAlone (Store.inMemory.save shelf puzzle team code).1 rest
  | .edit _ :: rest | .tick _ :: rest | .flush :: rest => othersAlone shelf rest

end MazeRobot.Autosave
