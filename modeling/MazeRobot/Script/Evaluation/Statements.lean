import MazeRobot.Script.Evaluation.Expressions
import MazeRobot.Script.Items

/-!
# Statements

What every kind of statement does. `eval` ties all rules together. Its fuel
bounds the nesting of parts and calls, and an evaluation that is nested deeper is
broken off. The nesting of parts is bounded by the text and that of calls by the
steps that they take.
-/

namespace MazeRobot.Script.Evaluation

open Eval

/-- An expression for its own sake. A call takes no step besides that of its
statement. -/
def valueOf (env : Env) (ev : Evaluator) (e : Expression) : Eval Value :=
  if e.isCall then compute env ev e else ev.expression e

/-- A new variable, possibly in the place of another one. Constants of the top level can be
found by their path if the script has any function. -/
def declaration (env : Env) (ev : Evaluator) (name : String) (e : Expression) (constant : Bool)
    (position : Option Nat) : Eval Value := do
  let v ← ev.expression e
  let h : Holding := if constant then .constant v else .free v
  match position with
  | some n => refill ⟨n, .own h⟩ (.own h)
  | none => declare name h
  if constant && !env.program.functions.isEmpty then
    modify fun w =>
      if w.blocks == 0 then { w with constants := Entries.put name v w.constants } else w
  pure .unit

/-- Statements with variables of their own. -/
def body (ev : Evaluator) (statements : List Statement) : Eval Value :=
  match statements with
  | [] => pure .unit
  | statements => block (sequence ev statements)

/-- The first case that applies and whose condition is true. -/
def firstCase (ev : Evaluator) : List (Expression × Expression) → Eval (Option Expression)
  | [] => pure none
  | (.literal (.bool b) _, action) :: rest =>
    if b then pure (some action) else firstCase ev rest
  | (guard, action) :: rest => do
    if ← truth ev guard then pure (some action) else firstCase ev rest

/-- The cases that have a label of some kind. -/
def labelled (isLabel : Value → Bool) (cases : List Case) : List (Expression × Expression) :=
  cases.filterMap fun
    | .mk labels guard action => if labels.any isLabel then some (guard, action) else none

/-- A choice among cases. Ranges that hold the value count only if no case with the value
itself for a label applies. -/
def switch (ev : Evaluator) (subject : Expression) (cases : List Case)
    (otherwise : Option Expression) : Eval Value := do
  let v ← ev.expression subject
  let chosen ←
    match ← firstCase ev (labelled (·.identical v) cases) with
    | some action => pure (some action)
    | none => firstCase ev (labelled v.isInRange cases)
  match chosen <|> otherwise with
  | some action => ev.expression action
  | none => pure .unit

/-- One round of a loop: its value if it is left, nothing if it goes on; and
whether it was cut short. -/
def round (ev : Evaluator) (statements : List Statement) : Eval (Option Value × Bool) := do
  match ← attempt (body ev statements) with
  | .ok _ => pure (none, false)
  | .error .next => pure (none, true)
  | .error (.leave v) => pure (some v, false)
  | .error i => interrupt i

/-- A loop with its guard before the body. -/
def whileLoop (env : Env) (ev : Evaluator) (guard : Option Expression)
    (statements : List Statement) (brace : Place) : Eval Value :=
  iterate env () fun () => do
    let goOn ←
      match guard with
      | some e => truth ev e
      | none => do
        if statements.isEmpty then tick env (some brace)
        pure true
    if goOn then
      match ← round ev statements with
      | (some v, _) => pure (.inr v)
      | (none, _) => pure (.inl ())
    else pure (.inr .unit)

/-- A loop with its guard behind the body. A round that is cut short does not ask
the guard. -/
def doLoop (env : Env) (ev : Evaluator) (statements : List Statement) (guard : Expression)
    (goOn : Bool) : Eval Value :=
  iterate env () fun () => do
    match ← round ev statements with
    | (some v, _) => pure (.inr v)
    | (none, true) => pure (.inl ())
    | (none, false) =>
      if (← truth ev guard) == goOn then pure (.inl ()) else pure (.inr .unit)

/-- Gives a variable of a loop its value. -/
def setLoopVariable (name : String) (v : Value) : Eval Unit := do
  match ← find? name .seen with
  | some f => store f v
  | none => pure ()

/-- A loop over items. Its variables are the same in every round. -/
def each (env : Env) (ev : Evaluator) (item : String) (counter : Option String)
    (source : Expression) (statements : List Statement) (brace : Place) : Eval Value := do
  match Items.ofValue? (← ev.expression source) with
  | none => fail .notIterable source.start
  | some items =>
    block do
      match counter with
      | some name => declare name (.free (.int 0))
      | none => pure ()
      declare item (.free .unit)
      iterate env (0, items) fun (n, items) =>
        match items.next? with
        | none => pure (.inr .unit)
        | some (v, items) => do
          match counter with
          | some name => setLoopVariable name (.ofNat n)
          | none => pure ()
          setLoopVariable item v
          tick env (some brace)
          match ← round ev statements with
          | (some v, _) => pure (.inr v)
          | (none, _) => pure (.inl (n + 1, items))

/-- Whether a handler gets to see an interrupt. -/
def isCaught : Interrupt → Bool
  | .failed f => !f.cause.isFatal
  | _ => false

/-- Statements that may fail and their handler. A handler that throws the unit
throws what it caught, from its own place. -/
def handled (ev : Evaluator) (statements : List Statement) (name : Option String)
    (handler : List Statement) : Eval Value := do
  match ← attempt (body ev statements) with
  | .error (.failed failure) =>
    if !isCaught (.failed failure) then interrupt (.failed failure)
    else
      let result ← attempt <| block do
        match name with
        | some name => declare name (.free failure.caught)
        | none => pure ()
        body ev handler
      match result with
      | .error (.failed ⟨.thrown v, p⟩) =>
        interrupt (.failed (if v.isUnit then { failure with place := p } else ⟨.thrown v, p⟩))
      | .error i => interrupt i
      | .ok _ => pure .unit
  | result => settle result

/-- An optional expression; the unit if it is left out. -/
def optional (ev : Evaluator) : Option Expression → Eval Value
  | some e => ev.expression e
  | none => pure .unit

/-- What a statement does. -/
def statement (env : Env) (ev : Evaluator) (s : Statement) : Eval Value := do
  tick env (some s.place)
  match s with
  | .skip _ => pure .unit
  | .value e => valueOf env ev e
  | .declare name value constant position _ =>
    declaration env ev name value constant position
  | .assign target symbol value p => do
    assign env ev target symbol value p
    pure .unit
  | .block statements _ => body ev statements
  | .cond guard yes no _ => if ← truth ev guard then body ev yes else body ev no
  | .switch subject cases otherwise _ => switch ev subject cases otherwise
  | .loop guard statements brace _ => whileLoop env ev guard statements brace
  | .doLoop statements guard goOn _ => doLoop env ev statements guard goOn
  | .each item counter source statements brace _ =>
    each env ev item counter source statements brace
  | .leave value _ => do interrupt (.leave (← optional ev value))
  | .next _ => interrupt .next
  | .return value _ => do interrupt (.return (← optional ev value))
  | .throw value p => do fail (.thrown (← optional ev value)) p
  | .attempt statements name handler _ => handled ev statements name handler
  | .load source _ =>
    match (← ev.expression source).bare with
    | .string name => fail (.noModule name) source.start
    | v => fail (.wrongType v.longTypeName "string") source.place
  | .publish name p _ =>
    if ← isVariable name then pure .unit else fail (.noVariable name) p

/-- The same limits, for a script without anything in it. -/
def blank (env : Env) : Env :=
  { env with program := ⟨[], []⟩ }

/-- Evaluates the parts of a script. -/
def eval : Nat → Env → Evaluator
  | 0, _ => {
      expression := fun _ => breakOff
      foreign := fun _ => breakOff
      statement := fun _ => breakOff
      invoke := fun _ => breakOff }
  | fuel + 1, env => {
      expression := fun e => expression env (eval fuel env) e
      foreign := fun e => expression (blank env) (eval fuel (blank env)) e
      statement := fun s => statement env (eval fuel env) s
      invoke := fun c => invoke env (eval fuel env) c }

end MazeRobot.Script.Evaluation
