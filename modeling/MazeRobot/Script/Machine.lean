import MazeRobot.Script.Commands
import MazeRobot.Script.Room
import MazeRobot.Script.Tree

/-!
# The machine

What the evaluation of a script keeps: variables, the cells of shared
variables, what the present function is bound to, and counts for the limits. An
evaluation is a dialogue with the robot: it takes the world before to the world
after and to a value or an interrupt. One that goes on for ever has neither, so an
evaluation is followed for a number of rounds and then broken off, and nothing in
it notices that.
-/

namespace MazeRobot.Script

/-- A value where it can be changed. A constant remembers what it was at first:
the parts that it had then never change, but a map may get more entries. -/
structure Holding where
  /-- The value. -/
  value : Value
  /-- What a constant was at first. -/
  fixed : Option Value

namespace Holding

/-- A value that may change in all its parts. -/
def free (v : Value) : Holding := ⟨v, none⟩

/-- A value that does not change. -/
def constant (v : Value) : Holding := ⟨v, some v⟩

/-- Whether the value is constant. -/
def isConstant (h : Holding) : Bool := h.fixed.isSome

end Holding

/-- What a variable holds. -/
inductive Content where
  /-- A value of its own. -/
  | own (holding : Holding)
  /-- What a cell holds that it shares with closures. -/
  | shared (cell : Nat)

/-- A variable. -/
structure Slot where
  /-- Its name. -/
  name : String
  /-- What it holds. -/
  content : Content

/-- A variable that was found. -/
structure Found where
  /-- How many variables are newer. -/
  position : Nat
  /-- What it holds. -/
  content : Content

/-- The state of an evaluation. -/
structure World where
  /-- The variables in sight, newest first. -/
  slots : List Slot
  /-- The cells of shared variables. -/
  cells : Array Holding
  /-- The cells that are in use as the root of a chain. -/
  locked : List Nat
  /-- What the present function is bound to. -/
  self : Option Holding
  /-- How many steps were taken. -/
  steps : Nat
  /-- How deep calls are nested. -/
  level : Nat
  /-- How deep blocks are nested. -/
  blocks : Nat
  /-- The constants of the top level. -/
  constants : Entries

namespace World

/-- A world without variables. -/
def empty : World where
  slots := []
  cells := #[]
  locked := []
  self := none
  steps := 0
  level := 0
  blocks := 0
  constants := []

end World

/-- What an evaluation may look up. -/
structure Env where
  /-- The script. -/
  program : Program
  /-- Its limits. -/
  limits : Limits
  /-- How many rounds of a loop are followed. -/
  rounds : Nat

/-- An evaluation. It has no result if it is broken off. -/
abbrev Eval := ExceptT Interrupt (StateT World (OptionT Dialogue))

/-- What an evaluation came to that may have changed something on its way. -/
abbrev Settled (α : Type) := Except Interrupt α

/-- A call of a function by its name. -/
structure Invocation where
  /-- The name. -/
  name : String
  /-- What the function may change: the value that it is a method of, or the
  variable that is its first argument. -/
  target : Option Holding
  /-- Whether it is called as a method. -/
  isMethod : Bool
  /-- The values and cells that go before the arguments. -/
  captured : List (Value ⊕ Nat)
  /-- The arguments, but for the target. -/
  arguments : List Value
  /-- Whether a function of the script sees the variables of the caller. -/
  seesCaller : Bool
  /-- Where the call stands. -/
  place : Place

/-- The result of a call, and its target as the call leaves it. -/
abbrev Outcome := Settled Value × Option Value

/-- How to evaluate the parts of a script. -/
structure Evaluator where
  /-- The value of an expression. -/
  expression : Expression → Eval Value
  /-- The value of an expression that is no part of the script and sees none of its
  functions. -/
  foreign : Expression → Eval Value
  /-- The value of a statement. -/
  statement : Statement → Eval Value
  /-- What a call comes to. -/
  invoke : Invocation → Eval Outcome

namespace Eval

/-- Ends the evaluation. -/
def interrupt {α : Type} (i : Interrupt) : Eval α := throw i

/-- Fails at a place, if there is one. -/
def failAt {α : Type} (c : Cause) (p : Option Place) : Eval α :=
  interrupt (.failed ⟨c, p⟩)

/-- Fails at a place. -/
def fail {α : Type} (c : Cause) (p : Place) : Eval α :=
  failAt c (some p)

/-- A result, or a failure at a place. -/
def ofExcept {α : Type} (p : Place) : Except Cause α → Eval α
  | .ok a => pure a
  | .error c => fail c p

/-- Does not follow the evaluation any further. -/
def breakOff {α : Type} : Eval α := fun _ => failure

/-- Makes a call. -/
def ask (c : Call) : Eval c.Reply := fun w =>
  Dialogue.ask c fun reply => .done (some (.ok reply, w))

/-- Evaluates something and takes an interrupt as a result. -/
def attempt {α : Type} (m : Eval α) : Eval (Settled α) := fun w => do
  let (result, w) ← m w
  return (.ok result, w)

/-- Gives a result that was attempted. -/
def settle {α : Type} : Settled α → Eval α
  | .ok a => pure a
  | .error i => interrupt i

/-- Repeats a step until it gives a result, or as often as there is `fuel`. -/
def repeatFrom {α β : Type} (step : α → Eval (α ⊕ β)) : Nat → α → Eval β
  | 0, _ => breakOff
  | fuel + 1, before => fun w =>
    let round : Dialogue (Option (Settled (α ⊕ β) × World)) := step before w
    match round with
    | .done (some (.ok (.inl after), w)) => repeatFrom step fuel after w
    | _ =>
      round.bind fun
        | none => .done none
        | some (.ok (.inl after), w) => repeatFrom step fuel after w
        | some (.ok (.inr b), w) => .done (some (.ok b, w))
        | some (.error i, w) => .done (some (.error i, w))

/-- More rounds than anybody waits for. -/
def endless : Nat := Nat.pow 2 64

/-- Repeats a step until it gives a result. -/
def iterate {α β : Type} (env : Env) (start : α) (step : α → Eval (α ⊕ β)) : Eval β :=
  repeatFrom step env.rounds start

/-- Counts a step of evaluation. -/
def tick (env : Env) (p : Option Place) : Eval Unit := do
  let w ← get
  let steps := w.steps + 1
  set { w with steps := steps }
  if Limits.exceeded env.limits.operations steps then failAt (.tooMuch .operations) p

/-- Refuses a value that is too large. -/
def fits (env : Env) (p : Place) (v : Value) : Eval Unit :=
  match env.limits.excessOf? v with
  | some limit => fail (.tooMuch limit) p
  | none => pure ()

/-- A value that is not too large. -/
def fitting (env : Env) (p : Place) (v : Value) : Eval Value := do
  fits env p v
  pure v

/-- Evaluates something whose variables go out of sight behind it, however it
ends. -/
def block {α : Type} (m : Eval α) : Eval α := fun w => do
  let count := w.slots.length
  let (result, after) ← m { w with blocks := w.blocks + 1 }
  return (result, { after with
    slots := after.slots.drop (after.slots.length - count), blocks := w.blocks })

/-- What a variable holds. -/
def holding : Content → Eval Holding
  | .own h => pure h
  | .shared cell => do pure ((← get).cells[cell]?.getD (.free .unit))

/-- The position of the variable that a name means. -/
def position? (name : String) (sight : Sight) (slots : List Slot) : Option Nat :=
  match sight with
  | .displaced n => some n
  | .seen | .unseen => slots.findIdx? (·.name == name)

/-- The variable that a name means. -/
def find? (name : String) (sight : Sight) : Eval (Option Found) := do
  let slots := (← get).slots
  pure ((position? name sight slots).bind fun n => slots[n]?.map fun s => ⟨n, s.content⟩)

/-- Whether there is a variable of a name. -/
def isVariable (name : String) : Eval Bool := do
  pure ((← get).slots.any (·.name == name))

/-- Gives a variable something else to hold. -/
def refill (f : Found) (content : Content) : Eval Unit :=
  modify fun w =>
    { w with slots := w.slots.modify f.position fun s => { s with content := content } }

/-- Gives a variable a value. -/
def store (f : Found) (v : Value) : Eval Unit :=
  match f.content with
  | .own h => refill f (.own { h with value := v })
  | .shared cell =>
    modify fun w => { w with cells := w.cells.modify cell fun h => { h with value := v } }

/-- Brings a variable into sight. -/
def declare (name : String) (h : Holding) : Eval Unit :=
  modify fun w => { w with slots := ⟨name, .own h⟩ :: w.slots }

/-- Puts something into a new cell. -/
def allocate (h : Holding) : Eval Nat := do
  let w ← get
  set { w with cells := w.cells.push h }
  pure w.cells.size

/-- The cell of a variable, which is shared from now on. -/
def share (f : Found) : Eval Nat := do
  match f.content with
  | .shared cell => pure cell
  | .own h =>
    let cell ← allocate h
    refill f (.shared cell)
    pure cell

/-- Evaluates something while a cell is in use. -/
def locking {α : Type} (cell : Nat) (m : Eval α) : Eval α := fun w => do
  let (result, after) ← m { w with locked := cell :: w.locked }
  return (result, { after with locked := w.locked })

/-- Evaluates something one level of calls deeper. -/
def deeper {α : Type} (m : Eval α) : Eval α := fun w => do
  let (result, after) ← m { w with level := w.level + 1 }
  return (result, { after with level := w.level })

/-- Evaluates something that has nothing to do with what goes on around it. -/
def apart {α : Type} (m : Eval α) : Eval α := fun w => do
  let (result, after) ← m { World.empty with cells := w.cells }
  return (result, { w with cells := after.cells })

/-- Evaluates something whose steps do not count. -/
def uncounted {α : Type} (m : Eval α) : Eval α := fun w => do
  let (result, after) ← m w
  return (result, { after with steps := w.steps })

end Eval

end MazeRobot.Script
