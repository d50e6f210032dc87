import MazeRobot.Script.FunctionName
import MazeRobot.Script.Simplification.Basic

/-!
# Simplifying expressions

An expression is replaced by its value where that is known: a literal in more
than one part, an operator between literals, an item of a literal. Operands that
do not matter are left out.
-/

namespace MazeRobot.Script.Simplification

/-- The operands up to the first one of a kind. -/
def through (isLast : Expression → Bool) : List Expression → List Expression
  | [] => []
  | e :: rest => if isLast e then [e] else e :: through isLast rest

/-- Operands without those that do not matter, up to the one that settles the
matter. Of a single one nothing else is left, and of none the answer is known. -/
def operands (d : Deeper) (skips settles : Expression → Bool) (answer : Bool)
    (join : List Expression → Place → Expression) (all : List Expression) (p : Place) :
    Simplifying Expression := do
  let all ← all.mapM d.expression
  match ← reduced all (through settles (all.filter fun e => !skips e)) with
  | [] => pure (.literal (.bool answer) p)
  | [e] => pure e
  | rest => pure (join rest p)

/-- The parts of a text, neighbouring texts as one. -/
def joined : List Expression → List Expression
  | [] => []
  | part :: rest =>
    match part, joined rest with
    | .literal (.string s) p, .literal (.string t) _ :: more =>
      .literal (.string (s ++ t)) p :: more
    | .literal .unit _, next :: more => next :: more
    | .literal (.string s) p, next :: more =>
      if s = "" then next :: more else .literal (.string s) p :: next :: more
    | part, .literal .unit _ :: more => part :: more
    | part, .literal (.string "") _ :: more => part :: more
    | part, more => part :: more

/-- A text with holes. -/
def template (d : Deeper) (parts : List Expression) (p : Place) : Simplifying Expression := do
  match (Expression.template parts p).constant? with
  | some v => anew (.literal v p)
  | none =>
    let parts ← parts.mapM d.expression
    pure (.template (← reduced parts (joined parts)) p)

/-- The position that an index means, if there is one. -/
def position? (length : Nat) (index : Int64) : Option Nat :=
  let n := index.toInt
  if 0 ≤ n then if n.toNat < length then some n.toNat else none
  else if n.natAbs ≤ length then some (length - n.natAbs)
  else none

/-- What a single link makes of a root, if that is known. -/
def linked? (root : Expression) (link : Link) : Option Expression :=
  let entry (entries : List (String × Expression)) (name : String) (p : Place) :
      Option Expression :=
    if Expression.entriesConstant entries then
      some (((entries.find? (·.1 == name)).map fun (_, e) => e.moved p).getD (.literal .unit p))
    else none
  let known (entries : Entries) (name : String) (p : Place) : Option Expression :=
    some (.literal ((Entries.find entries name).getD .unit) p)
  match root, link with
  | .map entries p, .property name .. => entry entries name p
  | .map entries p, .index (.literal (.string name) _) .. => entry entries name p
  | .literal (.map entries) p, .property name .. => known entries name p
  | .literal (.map entries) p, .index (.literal (.string name) _) .. => known entries name p
  | .literal (.array items) p, .index (.literal (.int n) _) .. =>
    ((position? items.size n).bind fun at_ => items[at_]?).map fun v => .literal v p
  | .array items p, .index (.literal (.int n) _) .. =>
    if Expression.areConstant items then
      ((position? items.length n).bind fun at_ => items[at_]?).map (·.moved p)
    else none
  | .literal (.int whole) p, .index (.literal (.int n) _) .. =>
    (position? 64 n).map fun at_ =>
      .literal (.bool (whole >>> Int64.ofNat at_ &&& 1 == 1)) p
  | .literal (.string s) p, .index (.literal (.int n) _) .. =>
    let cs := s.toList
    ((position? cs.length n).bind fun at_ => cs[at_]?).map fun c => .literal (.char c) p
  | root, .method "type_of" [] _ _ p =>
    root.constant?.map fun v => .literal (.string v.typeName) p
  | root, .method "is_shared" [] _ _ p =>
    root.constant?.map fun _ => .literal (.bool false) p
  | _, _ => none

/-- A link. -/
def link (d : Deeper) : Link → Simplifying Link
  | .index at_ isOptional mark => do pure (.index (← d.expression at_) isOptional mark)
  | .property name isOptional mark p => pure (.property name isOptional mark p)
  | .method name arguments isOptional mark p => do
    pure (.method name (← arguments.mapM d.expression) isOptional mark p)

/-- The root of a chain. A variable stays, because the chain may change it. -/
def root (d : Deeper) : Expression → Simplifying Expression
  | .var name inSight p => pure (.var name inSight p)
  | .self p => pure (.self p)
  | e => d.expression e

/-- A chain whose end may be assigned to. -/
def openChain (d : Deeper) (first : Expression) (links : List Link) (p : Place) :
    Simplifying Expression := do
  let first ← root d first
  pure (.chain first (← links.mapM (link d)) p)

/-- Whether a link is a method call. -/
def isMethod : Link → Bool
  | .method .. => true
  | _ => false

/-- The root of a chain with a single link as far as it is known: a constant is its value,
unless a method is called that may want the constant itself. -/
def knownRoot (first : Expression) (link : Link) : Simplifying Expression := do
  match first with
  | .var name _ p =>
    if isMethod link then pure first
    else pure (((← known? name).map fun v => Expression.literal v p).getD first)
  | e => pure e

/-- A chain. -/
def chain (d : Deeper) (first : Expression) (links : List Link) (p : Place) :
    Simplifying Expression := do
  match first, links with
  | .literal .unit q, step :: _ =>
    if step.isOptional then anew (.literal .unit q) else openChain d first links p
  | _, [step] =>
    match linked? (← knownRoot first step) step with
    | some e => anew e
    | none => openChain d first links p
  | _, _ => openChain d first links p

/-- Whether a value fits where texts may not be too long. -/
def fits (v : Value) : Simplifying Bool := do
  match v with
  | .string s => pure !(Limits.exceeded (← get).stringSize s.utf8ByteSize)
  | _ => pure true

/-- An operator. -/
def operator (d : Deeper) (symbol : String) (operands : List Expression) (p : Place) :
    Simplifying Expression := do
  let whole : Simplifying Expression := do
    pure (.operator symbol (← operands.mapM d.expression) p)
  match operands with
  | [left, right] =>
    match left.constant?, right.constant? with
    | some a, some b =>
      match Operator.builtIn? symbol a b with
      | some (.ok v) => if ← fits v then anew (.literal v p) else whole
      | _ => whole
    | _, _ => whole
  | _ => whole

/-- What a call gives, if that is known. -/
def called? (name : String) (arguments : List Value) : Option Value :=
  match name, arguments with
  | "Fn", [.string f] => if (FunctionName.fault? f).isNone then some (.function f none []) else none
  | "curry", .function f arity captured :: first :: rest =>
    some (.function f arity (captured ++ (first :: rest).map .inl))
  | "type_of", [v] => some (.string v.typeName)
  | "is_shared", [_] => some (.bool false)
  | _, _ => none

/-- A call of a function. -/
def call (d : Deeper) (name : String) (arguments : List Expression) (seesCaller : Bool)
    (p : Place) : Simplifying Expression := do
  match (Expression.constants? arguments).bind (called? name) with
  | some v => anew (.literal v p)
  | none => pure (.call name (← arguments.mapM d.expression) seesCaller p)

/-- What a closure captures: a variable, or the value of a constant. -/
def captured (e : Expression) : Simplifying Expression := do
  match e with
  | .var name inSight p =>
    match ← known? name with
    | some v => anew (.literal v p)
    | none => pure (.var name inSight p)
  | e => pure e

/-- A closure. One that captures known values only is known itself. -/
def closure (function : String) (arity : Nat) (shared : List Expression) (p : Place) :
    Simplifying Expression := do
  let shared ← shared.mapM captured
  match Expression.constants? shared with
  | some values => anew (.literal (.function function (some arity) (values.map .inl)) p)
  | none => pure (.closure function arity shared p)

/-- A block where an expression is wanted. -/
def blockExpression (d : Deeper) (body : List Statement) (p : Place) : Simplifying Expression := do
  match body with
  | [] => anew (.literal .unit p)
  | [.value e] =>
    note
    d.expression e
  | body =>
    match ← d.block .valued body with
    | [.value e] => anew e
    | body => pure (.block body p)

/-- An expression. -/
def expression (d : Deeper) (e : Expression) : Simplifying Expression := do
  match e with
  | .literal .. | .self _ | .path .. => pure e
  | .template parts p => template d parts p
  | .array items p =>
    match e.constant? with
    | some v => anew (.literal v p)
    | none => pure (.array (← items.mapM d.expression) p)
  | .map entries p =>
    match e.constant? with
    | some v => anew (.literal v p)
    | none => pure (.map (← entries.mapM fun (name, e) => do pure (name, ← d.expression e)) p)
  | .var name _ p =>
    match ← known? name with
    | some v => anew (.literal v p)
    | none => pure e
  | .call name arguments seesCaller p => call d name arguments seesCaller p
  | .pathCall modules name arguments start p =>
    pure (.pathCall modules name (← arguments.mapM d.expression) start p)
  | .operator symbol operands p => operator d symbol operands p
  | .both all p => operands d (·.isBool true) (·.isBool false) true .both all p
  | .either all p => operands d (·.isBool false) (·.isBool true) false .either all p
  | .orElse all p => operands d Expression.isUnit Expression.isConstant false .orElse all p
  | .chain first links p => chain d first links p
  | .closure function arity shared p => closure function arity shared p
  | .block body p => blockExpression d body p

end MazeRobot.Script.Simplification
