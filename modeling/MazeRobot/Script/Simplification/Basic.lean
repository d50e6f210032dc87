import MazeRobot.Script.Limits
import MazeRobot.Script.Operator
import MazeRobot.Script.Simplification.Purity

/-!
# Simplifying a script

What is known before a script runs need not be computed when it runs. A
simplification keeps the constants whose values are known, and notes whether
anything has changed, because one change may make room for another. How nested
parts are simplified is passed in as an argument (`Deeper`), which keeps every
rule a definition of its own.
-/

namespace MazeRobot.Script.Simplification

/-- What a simplification knows. -/
structure Knowledge where
  /-- The variables declared so far, newest first; a constant has a value if that
  is known. -/
  declared : List (String × Option Value)
  /-- Whether anything has changed. -/
  changed : Bool
  /-- How many bytes a text may have. -/
  stringSize : Nat

/-- A step of simplification. -/
abbrev Simplifying := StateM Knowledge

/-- How the statements of a block are seen from outside. -/
structure Manner where
  /-- Whether the value of the block counts. -/
  keepsValue : Bool
  /-- Whether nobody outside sees the variables of the block. -/
  isInner : Bool
  /-- Whether the end of the block is the end of a function. -/
  endsFunction : Bool

/-- A block whose value counts. -/
def Manner.valued : Manner := ⟨true, true, false⟩

/-- A block whose value does not count. -/
def Manner.valueless : Manner := ⟨false, true, false⟩

/-- The body of a function or of a script. -/
def Manner.body : Manner := ⟨true, false, true⟩

/-- How nested parts are simplified. -/
structure Deeper where
  /-- How an expression is. -/
  expression : Expression → Simplifying Expression
  /-- How a statement is, the value of which may count. -/
  statement : Bool → Statement → Simplifying Statement
  /-- How the statements of a block are. -/
  block : Manner → List Statement → Simplifying (List Statement)

/-- Notes that something has changed. -/
def note : Simplifying Unit :=
  modify fun k => { k with changed := true }

/-- Gives something new. -/
def anew {α : Type} (a : α) : Simplifying α := do
  note
  pure a

/-- Gives a part of a list, which is new if it is shorter. -/
def reduced {α β : Type} (before : List α) (after : List β) : Simplifying (List β) := do
  if after.length < before.length then note
  pure after

/-- The value of a constant that is known. -/
def known? (name : String) : Simplifying (Option Value) := do
  pure (((← get).declared.find? (·.1 == name)).bind (·.2))

/-- Adds a variable, and its value if that is known. -/
def learn (name : String) (value : Option Value) : Simplifying Unit :=
  modify fun k => { k with declared := (name, value) :: k.declared }

/-- Simplifies an expression that may be left out. -/
def Deeper.optional (d : Deeper) : Option Expression → Simplifying (Option Expression)
  | some e => do pure (some (← d.expression e))
  | none => pure none

end MazeRobot.Script.Simplification
