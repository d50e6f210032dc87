import MazeRobot.Autosave

/-!
# Histories of autosaves

An autosave lives through edits, ticks and flushes. Every tick and every flush is
given a store, which need not be the one that was given before. So each save of a
history may be refused or accepted, whatever became of the others.
-/

namespace MazeRobot

/-- All spans of a list, one after the other. -/
def Span.total : List Span → Span
  | [] => .zero
  | s :: rest => s.add (total rest)

namespace Store

variable {σ : Type}

/-- A store that refuses every save and stays as it is, and loads as another one does. -/
def refusing (store : Store σ) (fault : Fault) : Store σ where
  load := store.load
  save state _ _ _ := (state, .error fault)

/-- A store that keeps the very script it is given whenever it accepts a save. -/
def Honest (store : Store σ) : Prop :=
  ∀ state puzzle team code saved,
    (store.save state puzzle team code).2 = .ok saved → saved.code = code

end Store

namespace Autosave

variable {σ : Type}

/-- Something that is done with an autosave. -/
inductive Act (σ : Type) where
  /-- An edit. -/
  | edit (code : String)
  /-- Time goes by. -/
  | tick (store : Store σ) (elapsed : Span)
  /-- A wish to save at once. -/
  | flush (store : Store σ)

/-- Whether something is a tick or a flush, at an honest store. -/
def Act.IsWait : Act σ → Prop
  | edit _ => False
  | tick store _ | flush store => store.Honest

/-- An autosave and its store after something was done. An edit saves nothing. -/
def act (a : Autosave) (state : σ) : Act σ → Outcome σ
  | .edit code => ⟨a.edit code, state, .ok false⟩
  | .tick store elapsed => a.tick store elapsed state
  | .flush store => a.flush store state

/-- An autosave and its store after a history, and what was returned each time. -/
structure Outcomes (σ : Type) where
  /-- The autosave. -/
  autosave : Autosave
  /-- The store. -/
  state : σ
  /-- For each time, whether something was saved. -/
  results : List (Except Store.Fault Bool)

/-- Lives through a history. -/
def actAll (a : Autosave) (state : σ) : List (Act σ) → Outcomes σ
  | [] => ⟨a, state, []⟩
  | action :: rest =>
    let next := a.act state action
    let later := actAll next.autosave next.state rest
    { later with results := next.result :: later.results }

end Autosave

end MazeRobot
