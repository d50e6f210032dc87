import MazeRobot.Autosave.Sharing

/-!
# Autosaves whose clock overruns

While a save is due, the clock of an autosave counts the time since the latest edit, and
it counts no further than the longest span there is. A tick by which it would have to is
never answered. All else is as if the clock went on for ever.
-/

namespace MazeRobot.Autosave

variable {σ : Type}

/-- Lets time go by, unless the clock overruns. -/
def tick? (store : Store σ) (a : Autosave) (elapsed : Span) (state : σ) : Option (Outcome σ) :=
  match a.quiet with
  | none => some ⟨a, state, .ok false⟩
  | some quiet =>
    (quiet.add? elapsed).map fun quiet =>
      if quiet.nanos < a.debounce.nanos then ⟨{ a with quiet := some quiet }, state, .ok false⟩
      else a.flush store state

/-- An autosave and its store after something was done, unless the clock overruns. -/
def act? (a : Autosave) (state : σ) : Act σ → Option (Outcome σ)
  | .tick store elapsed => a.tick? store elapsed state
  | action => some (a.act state action)

/-- Lives through a history, unless the clock overruns. -/
def actAll? (a : Autosave) (state : σ) : List (Act σ) → Option (Outcomes σ)
  | [] => some ⟨a, state, []⟩
  | action :: rest =>
    (a.act? state action).bind fun next =>
      (actAll? next.autosave next.state rest).map fun later =>
        { later with results := next.result :: later.results }

/-- An autosave and the shelf after a deed, unless the clock overruns. -/
def meet? (a : Autosave) (shelf : Shelf) : Deed → Option (Outcome Shelf)
  | .tick elapsed => a.tick? .inMemory elapsed shelf
  | deed => some (a.meet shelf deed)

/-- Lives through deeds, one after the other, unless the clock overruns. -/
def meetAll? (a : Autosave) (shelf : Shelf) : List Deed → Option Ledger
  | [] => some ⟨a, shelf, []⟩
  | deed :: rest =>
    (a.meet? shelf deed).bind fun next =>
      (meetAll? next.autosave next.state rest).map fun later =>
        { later with scripts := scriptsOf a next ++ later.scripts }

end MazeRobot.Autosave
