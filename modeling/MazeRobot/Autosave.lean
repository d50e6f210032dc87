import MazeRobot.Config
import MazeRobot.Store

/-!
# Autosaves

An autosave watches one script that is being edited. It saves once no edit
came for a while, and only if the script differs from what was saved last.
Without a team it never saves.
-/

namespace MazeRobot

/-- A script being edited. -/
structure Autosave where
  /-- The puzzle it is for. -/
  puzzle : String
  /-- The team that edits it. -/
  team : Option String
  /-- How long there must be no edit. -/
  debounce : Span
  /-- The script as it is now. -/
  buffer : String
  /-- The script as it was loaded or saved last. -/
  saved : Option String
  /-- The time since the latest edit, while a save is due for it. -/
  quiet : Option Span
  /-- The revision of what was saved last. -/
  revision : UInt64
  deriving DecidableEq, Repr

namespace Autosave

/-- What was there for a team, if there is one. -/
def loadFor {σ : Type} (store : Store σ) (state : σ) (puzzle : String) :
    Option String → Except Store.Fault (Option SavedCode)
  | some team => store.load state puzzle team
  | none => .ok none

/-- Opens the script of a puzzle. -/
def start {σ : Type} (store : Store σ) (state : σ) (puzzle : String) (team : Option String)
    (config : AutosaveConfig) : Except Store.Fault Autosave :=
  match loadFor store state puzzle team with
  | .error fault => .error fault
  | .ok stored =>
    .ok {
      puzzle := puzzle
      team := team
      debounce := config.debounceSpan
      buffer := Store.orStarter stored
      saved := stored.map (·.code)
      quiet := none
      revision := (stored.map (·.revision)).getD 0 }

/-- Whether the script differs from what was saved. -/
def isDirty (a : Autosave) : Bool :=
  a.saved ≠ some a.buffer

/-- An edit. -/
def edit (a : Autosave) (code : String) : Autosave :=
  { a with buffer := code, quiet := some .zero }

/-- An autosave and its store after they were at work, and whether something
was saved. -/
structure Outcome (σ : Type) where
  /-- The autosave. -/
  autosave : Autosave
  /-- The store. -/
  state : σ
  /-- Whether something was saved. -/
  result : Except Store.Fault Bool

/-- Saves at once, if there is a team and anything to save. -/
def flush {σ : Type} (store : Store σ) (a : Autosave) (state : σ) : Outcome σ :=
  let a := { a with quiet := none }
  match a.team with
  | none => ⟨a, state, .ok false⟩
  | some team =>
    if a.isDirty then
      match store.save state a.puzzle team a.buffer with
      | (state, .error fault) => ⟨a, state, .error fault⟩
      | (state, .ok saved) =>
        ⟨{ a with revision := saved.revision, saved := some saved.code }, state, .ok true⟩
    else ⟨a, state, .ok false⟩

/-- Lets time go by. -/
def tick {σ : Type} (store : Store σ) (a : Autosave) (elapsed : Span) (state : σ) : Outcome σ :=
  match a.quiet with
  | none => ⟨a, state, .ok false⟩
  | some quiet =>
    let quiet := quiet.add elapsed
    if quiet.nanos < a.debounce.nanos then
      ⟨{ a with quiet := some quiet }, state, .ok false⟩
    else a.flush store state

end Autosave

end MazeRobot
