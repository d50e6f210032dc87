import MazeRobot.Script.Access
import MazeRobot.Script.Machine

/-!
# Functions of a script

A function of the script sees its parameters and the value that it is bound to,
and nothing else, unless the call says so. A failure that leaves it is wrapped
with the place of the call; what cannot be caught takes that place. A function
value may stand for one particular function, or for whatever has its name.
-/

namespace MazeRobot.Script.Evaluation

open Eval

/-- Evaluates statements one after the other; the value is that of the last
one. -/
def sequence (ev : Evaluator) : List Statement → Eval Value
  | [] => pure .unit
  | [s] => ev.statement s
  | s :: rest => do
    let _ ← ev.statement s
    sequence ev rest

/-- The variables that a function begins with. -/
def parameterSlots (names : List String) (captured : List (Value ⊕ Nat))
    (arguments : List Value) : List Slot :=
  let content : Value ⊕ Nat → Content
    | .inl v => .own (.free v)
    | .inr cell => .shared cell
  (List.zipWith (fun name c => ⟨name, c⟩) names
    (captured.map content ++ arguments.map fun v => .own (.free v))).reverse

/-- What leaves a function. -/
def leaving (f : Function) (p : Place) : Settled Value → Settled Value
  | .ok v => .ok v
  | .error (.return v) => .ok v
  | .error (.failed failure) =>
    if failure.cause.isFatal then .error (.failed ⟨failure.cause, some p⟩)
    else .error (.failed ⟨.inCall f.name f.isClosure failure.cause failure.place, some p⟩)
  | .error .exit => .error .exit
  | .error (.leave _) | .error .next => .ok .unit

/-- Calls a function of the script. Also gives the value that it was bound to as
the call leaves it. -/
def callScript (env : Env) (ev : Evaluator) (f : Function) (captured : List (Value ⊕ Nat))
    (arguments : List Value) (self : Option Holding) (seesCaller : Bool) (p : Place) :
    Eval Outcome := do
  tick env (some p)
  let before ← get
  if env.limits.callLevels < before.level then fail (.tooMuch .calls) p
  let own := parameterSlots f.parameters captured arguments
  set { before with
    slots := if seesCaller then own ++ before.slots else own
    self := self
    blocks := before.blocks + 1 }
  let result ← attempt (sequence ev f.body)
  let after ← get
  set { after with
    slots :=
      if seesCaller then after.slots.drop (after.slots.length - before.slots.length)
      else before.slots
    self := before.self
    blocks := before.blocks }
  pure (leaving f p result, after.self.map (·.value))

/-- A captured value, or what a captured cell holds. -/
def uncaptured (w : World) : Value ⊕ Nat → Value
  | .inl v => v
  | .inr cell => (w.cells[cell]?.getD (.free .unit)).value

/-- A function value. -/
structure Callee where
  /-- The name. -/
  name : String
  /-- The number of parameters, if it stands for one particular function. -/
  arity : Option Nat
  /-- The values and cells that go before the arguments. -/
  captured : List (Value ⊕ Nat)

/-- The function value that a value is. -/
def callee? (v : Value) : Option Callee :=
  match v.bare with
  | .function name arity captured => some ⟨name, arity, captured⟩
  | _ => none

/-- The function that a function value stands for, if it takes so many
arguments. -/
def Callee.linked? (c : Callee) (program : Program) (arguments : Nat) : Option Function :=
  if c.arity = some (c.captured.length + arguments) then
    program.linked? c.name (c.captured.length + arguments)
  else none

/-- Calls a function value, bound to a value or not. -/
def apply (env : Env) (ev : Evaluator) (c : Callee) (self : Option Holding)
    (arguments : List Value) (p : Place) : Eval Outcome :=
  match c.linked? env.program arguments.length with
  | some f => callScript env ev f c.captured arguments self false p
  | none =>
    ev.invoke {
      name := c.name, target := self, isMethod := self.isSome, captured := c.captured
      arguments := arguments, seesCaller := false, place := p }

/-- The position of the first argument that uses a cell that is in use. -/
def raced? (locked : List Nat) (c : Invocation) : Option Nat :=
  let uses : Value ⊕ Nat → Bool
    | .inr cell => locked.contains cell
    | .inl (.function _ _ captured) => captured.any fun
      | .inr cell => locked.contains cell
      | .inl _ => false
    | .inl _ => false
  ((c.captured ++ c.arguments.map Sum.inl).findIdx? uses).map (· + 1)

end MazeRobot.Script.Evaluation
