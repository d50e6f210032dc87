import MazeRobot.Script.Evaluation.Chains
import MazeRobot.Script.Known

/-!
# Expressions

What every kind of expression does. The evaluation of parts is an argument, so
that each rule is a definition of its own.
-/

namespace MazeRobot.Script.Evaluation

open Eval

/-- A condition: it must be a truth value. -/
def truth (ev : Evaluator) (e : Expression) : Eval Bool := do
  match (← ev.expression e).bare with
  | .bool b => pure b
  | v => fail (.wrongType v.longTypeName "bool") e.place

/-- A text with holes. -/
def template (env : Env) (ev : Evaluator) (parts : List Expression) (p : Place) : Eval Value := do
  let mut text := ""
  for e in parts do
    text := text ++ (← ev.expression e).printed
    fits env p (.string text)
  pure (.string text)

/-- Refuses a literal that has become too large with the part at a place. -/
def growing (env : Env) (size : Value.Size) (p : Place) : Eval Unit :=
  match env.limits.excess? size with
  | some limit => fail (.tooMuch limit) p
  | none => pure ()

/-- An array of the values of expressions. -/
def arrayOf (env : Env) (ev : Evaluator) (items : List Expression) : Eval Value := do
  let mut all : Array Value := #[]
  let mut size := Value.Size.zero
  for e in items do
    let v ← ev.expression e
    size := Value.sizeOnto { size with items := size.items + 1 } v
    growing env size e.place
    all := all.push v
  pure (.array all)

/-- A map of the values of expressions. -/
def mapOf (env : Env) (ev : Evaluator) (entries : List (String × Expression)) : Eval Value := do
  let mut all : Entries := []
  let mut size := Value.Size.zero
  for (name, e) in entries do
    let v ← ev.expression e
    size := Value.sizeOnto { size with entries := size.entries + 1 } v
    growing env size e.place
    all := Entries.put name v all
  pure (.map all)

/-- The value of a variable, or the cell that it shares. -/
def content (env : Env) (ev : Evaluator) (e : Expression) : Eval (Value ⊕ Nat) := do
  match e with
  | .var name sight p =>
    tick env (some p)
    match ← variableRoot env name sight p with
    | (.variable ⟨_, .shared cell⟩, _) => pure (.inr cell)
    | (_, h) => pure (.inl h.value)
  | e => do pure (.inl (← ev.expression e))

/-- Makes the variables among expressions shared. -/
def shareAll : List Expression → Eval Unit
  | [] => pure ()
  | .var name sight p :: rest => do
    match ← find? name sight with
    | some f =>
      let _ ← share f
      shareAll rest
    | none => fail (.noVariable name) p
  | _ :: rest => shareAll rest

/-- A function value; the variables that it captures are shared from now on. -/
def closureOf (env : Env) (ev : Evaluator) (name : String) (arity : Nat)
    (captured : List Expression) (p : Place) : Eval Value := do
  tick env (some p)
  shareAll captured
  tick env (some p)
  tick env (some p)
  pure (.function name (some arity) (← captured.mapM (content env ev)))

/-- A call, once its name is known. A plain variable in the first place is read
behind the other arguments, and may be changed if it is neither constant nor
shared. -/
def namedCall (env : Env) (ev : Evaluator) (name : String) (captured : List (Value ⊕ Nat))
    (arguments : List Expression) (seesCaller : Bool) (p : Place) : Eval Value := do
  let run (target : Option Holding) (values : List Value) (seesCaller : Bool) : Eval Outcome :=
    ev.invoke {
      name := name, target := target, isMethod := false, captured := captured
      arguments := values, seesCaller := seesCaller, place := p }
  let byValue (seesCaller : Bool) : Eval Value := do
    let values ← arguments.mapM ev.expression
    settle (← run none values seesCaller).1
  let byReference (r : Root) (h : Holding) (values : List Value) : Eval Value := do
    let (result, after) ← run (some h) values false
    match after with
    | some v => restore r v
    | none => pure ()
    settle result
  if seesCaller && !(← get).slots.isEmpty then byValue true
  else if !captured.isEmpty then byValue false
  else
    match arguments with
    | .var name sight q :: rest =>
      let values ← rest.mapM ev.expression
      let (r, h) ← variableRoot env name sight q
      tick env (some q)
      match r with
      | .variable ⟨_, .own _⟩ =>
        if h.isConstant then settle (← run none (h.value :: values) false).1
        else byReference r h values
      | _ => settle (← run none (h.value :: values) false).1
    | .path modules root start q :: rest =>
      let values ← rest.mapM ev.expression
      let h ← pathRoot modules root start
      tick env (some q)
      byReference .fresh h values
    | .self q :: rest =>
      match (← get).self with
      | some h =>
        tick env (some q)
        let values ← rest.mapM ev.expression
        byReference .self ((← get).self.getD h) values
      | none => byValue false
    | _ => byValue false

/-- A text as the value of an argument; a complaint about another value names a place. -/
def textArgument (ev : Evaluator) (e : Expression) (p : Place) : Eval String := do
  match (← ev.expression e).bare with
  | .string s => pure s
  | v => fail (.wrongType v.longTypeName "string") p

/-- An integer as the value of an argument; a complaint about another value names a
place. -/
def intArgument (ev : Evaluator) (e : Expression) (p : Place) : Eval Int := do
  match (← ev.expression e).bare with
  | .int n => pure n.toInt
  | v => fail (.wrongType v.longTypeName "i64") p

/-- A function value as the value of an argument. -/
def calleeArgument (ev : Evaluator) (e : Expression) : Eval Callee := do
  let v ← ev.expression e
  match callee? v with
  | some callee => pure callee
  | none => fail (.wrongType v.longTypeName "Fn") e.start

/-- A call of a function by its name. Some names have a meaning of their own. -/
def call (env : Env) (ev : Evaluator) (name : String) (arguments : List Expression)
    (seesCaller : Bool) (p : Place) : Eval Value := do
  match name, arguments with
  | "call", first :: rest =>
    let callee ← calleeArgument ev first
    match callee.linked? env.program rest.length with
    | some f =>
      let values ← rest.mapM ev.expression
      settle (← callScript env ev f callee.captured values none false p).1
    | none => namedCall env ev callee.name callee.captured rest seesCaller p
  | "Fn", [first] =>
    let f ← textArgument ev first first.start
    match FunctionName.fault? f with
    | some c => fail c first.start
    | none => pure (.function f none [])
  | "curry", first :: second :: rest =>
    let callee ← calleeArgument ev first
    let more ← (second :: rest).mapM (content env ev)
    pure (.function callee.name callee.arity (callee.captured ++ more))
  | "is_shared", [first] =>
    match ← content env ev first with
    | .inr _ => pure (.bool true)
    | .inl _ => pure (.bool false)
  | "is_def_fn", [first, second] =>
    let f ← textArgument ev first p
    pure (.bool (env.program.defines none f (← intArgument ev second p)))
  | "is_def_fn", [first, second, third] =>
    let thisType ← textArgument ev first p
    let f ← textArgument ev second p
    pure (.bool (env.program.defines (some thisType) f (← intArgument ev third p)))
  | "is_def_var", [first] =>
    pure (.bool (← isVariable (← textArgument ev first first.start)))
  | name, arguments => namedCall env ev name [] arguments seesCaller p

/-- The rules of binary operators that are built in while a script runs: truth
values are not in any order then. -/
def builtIn? (symbol : String) (a b : Value) : Option (Except Cause Value) :=
  match a, b with
  | .bool _, .bool _ =>
    if Operator.isOrder symbol then some (.ok (.bool false)) else Operator.builtIn? symbol a b
  | _, _ => Operator.builtIn? symbol a b

/-- What an operator calls where no rule is built in. -/
def operatorCall (env : Env) (result : Option (Except Cause Value)) (symbol : String)
    (operands : List Value) (p : Place) : Eval Value := do
  tick env (some p)
  match result with
  | some result => fitting env p (← ofExcept p result)
  | none => fail (Operator.undefined symbol operands) p

/-- An operator. Whether something is contained is asked of the container. -/
def operator (env : Env) (ev : Evaluator) (symbol : String) (operands : List Expression)
    (p : Place) : Eval Value := do
  match operands with
  | [e] =>
    match symbol, (← ev.expression e).bare with
    | "!", .bool b => pure (.bool !b)
    | _, v => operatorCall env (Operator.unary? symbol v) symbol [v] p
  | [left, right] =>
    let a ← ev.expression left
    let b ← ev.expression right
    let x := a.bare
    let y := b.bare
    if symbol = "in" then
      let (result, _) ← ev.invoke {
        name := "contains", target := none, isMethod := false, captured := []
        arguments := [a, b], seesCaller := false, place := p }
      settle result
    else
      match builtIn? symbol x y with
      | some result => fitting env p (← ofExcept p result)
      | none => operatorCall env (Operator.function? symbol x y) symbol [x, y] p
  | _ => fail (.noFunction symbol) p

/-- Truth values that must all be as wanted; the answer is known at the first one
that is not. -/
def all (ev : Evaluator) (wanted : Bool) : List Expression → Eval Value
  | [] => pure (.bool wanted)
  | e :: rest => do
    if (← truth ev e) == wanted then all ev wanted rest else pure (.bool !wanted)

/-- The first value that is not the unit. -/
def firstOf (ev : Evaluator) : List Expression → Eval Value
  | [] => pure .unit
  | e :: rest => do
    let v ← ev.expression e
    if v.isUnit then firstOf ev rest else pure v

/-- A call behind module names, of which there is none. A plain variable in the first place
is read behind the other arguments. -/
def pathCall (env : Env) (ev : Evaluator) (modules : List String) (arguments : List Expression)
    (p : Place) : Eval Value := do
  match arguments with
  | .var name sight q :: rest =>
    tick env (some q)
    let _ ← rest.mapM ev.expression
    let _ ← variableRoot env name sight q
  | arguments =>
    let _ ← arguments.mapM ev.expression
  fail (.noModule (String.intercalate "::" modules)) p

/-- What an expression does, once its step is counted. -/
def compute (env : Env) (ev : Evaluator) (e : Expression) : Eval Value := do
  match e with
  | .literal v _ => pure v
  | .template parts p => template env ev parts p
  | .array items _ => arrayOf env ev items
  | .map entries _ => mapOf env ev entries
  | .var name sight p => do pure (← variableRoot env name sight p).2.value
  | .path modules name start _ => do pure (← pathRoot modules name start).value
  | .self p => do pure (← selfHolding p).value
  | .call name arguments seesCaller p => call env ev name arguments seesCaller p
  | .pathCall modules _ arguments start _ => pathCall env ev modules arguments start
  | .operator symbol operands p => operator env ev symbol operands p
  | .both operands _ => all ev true operands
  | .either operands _ => all ev false operands
  | .orElse operands _ => firstOf ev operands
  | .chain first links _ => chain env ev first links
  | .closure name arity captured p => closureOf env ev name arity captured p
  | .block body _ => block (sequence ev body)

/-- What an expression does. -/
def expression (env : Env) (ev : Evaluator) (e : Expression) : Eval Value := do
  tick env (some e.place)
  compute env ev e

end MazeRobot.Script.Evaluation
