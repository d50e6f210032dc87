import MazeRobot.Script.Evaluation.Invocations

/-!
# Chains

A chain goes from its root through items, properties and methods. Values are
copied, so a method that changes a part of the root makes a new root; it is
given back beside the result, also when the chain fails further on.
-/

namespace MazeRobot.Script.Evaluation

open Eval

/-- A link whose arguments are known. -/
inductive Step where
  /-- The part at an index. -/
  | index (at_ : Value) (isOptional : Bool) (mark place : Place)
  /-- A property. -/
  | property (name : String) (isOptional : Bool) (place : Place)
  /-- A method call, and where its first argument begins. -/
  | method (name : String) (arguments : List Value) (first : Place) (isOptional : Bool)
    (place : Place)

/-- Whether the step is left out when there is nothing before it. -/
def Step.isOptional : Step → Bool
  | .index _ b _ _ | .property _ b _ | .method _ _ _ b _ => b

/-- Where a link stands. -/
def linkPlace : Link → Place
  | .index at_ _ _ => at_.place
  | .property _ _ _ p | .method _ _ _ _ p => p

/-- Evaluates the arguments of a link. -/
def stepOf (ev : Evaluator) : Link → Eval Step
  | .index at_ isOptional mark => do
    pure (.index (← ev.expression at_) isOptional mark at_.start)
  | .property name isOptional _ p => pure (.property name isOptional p)
  | .method name arguments isOptional _ p => do
    let first := (arguments.head?.map Expression.start).getD p
    pure (.method name (← arguments.mapM ev.expression) first isOptional p)

/-- Evaluates the arguments of links, in order. -/
def stepsOf (env : Env) (ev : Evaluator) : List Link → Eval (List Step)
  | [] => pure []
  | [link] => do
    tick env (some (linkPlace link))
    pure [← stepOf ev link]
  | link :: next :: rest => do
    tick env (some next.mark)
    let step ← stepOf ev link
    pure (step :: (← stepsOf env ev (next :: rest)))

/-- Evaluates the arguments of the links of a chain. A single link without any to
evaluate takes no step. -/
def steps (env : Env) (ev : Evaluator) (links : List Link) : Eval (List Step) := do
  match links with
  | [.property name isOptional _ p] => pure [.property name isOptional p]
  | [.method name [] isOptional _ p] => pure [.method name [] p isOptional p]
  | [.index at_ isOptional mark] =>
    match at_.constant? with
    | some v => pure [.index v isOptional mark at_.start]
    | none => stepsOf env ev links
  | links => stepsOf env ev links

/-- A failure at a place. -/
def failed {α : Type} (c : Cause) (p : Place) : Settled α :=
  .error (.failed ⟨c, some p⟩)

/-- A failure at an index: what takes no index is told at the bracket. -/
def failedIndex {α : Type} (c : Cause) (mark p : Place) : Settled α :=
  match c with
  | .noIndexer _ => failed c mark
  | c => failed c p

/-- What a method call came to. -/
structure Called where
  /-- The result. -/
  result : Settled Value
  /-- The target as the call leaves it. -/
  target : Value
  /-- Whether the target may have changed, so that one that was made anew is put back. -/
  putsBack : Bool

/-- Calls a method. -/
def method (env : Env) (ev : Evaluator) (target : Holding) (name : String)
    (arguments : List Value) (first p : Place) : Eval Called := do
  let v := target.value
  let settled (result : Settled Value) : Eval Called := pure ⟨result, v, false⟩
  let bound (callee : Callee) (arguments : List Value) : Eval Called := do
    let (result, after) ← apply env ev callee (some target) arguments p
    pure ⟨result, after.getD v, false⟩
  let plain : Eval Called := do
    let call : Invocation := {
      name := name, target := some target, isMethod := true, captured := []
      arguments := arguments, seesCaller := false, place := p }
    let (result, after) ← ev.invoke call
    let putsBack := (script? env call).isNone && Library.takesPlace name v arguments
    pure ⟨result, after.getD v, putsBack⟩
  match name, callee? v, arguments with
  | "is_def_fn", none, [count] =>
    match v.bare, count.bare with
    | .string f, .int n => settled (.ok (.bool (env.program.defines none f n.toInt)))
    | _, _ => plain
  | "call", some callee, arguments => do
    let (result, _) ← apply env ev callee none arguments p
    settled result
  | "call", none, [] => settled (failed (.wrongType v.longTypeName "Fn") p)
  | "call", none, f :: rest =>
    match callee? f with
    | some callee => bound callee rest
    | none => settled (failed (.wrongType f.longTypeName "Fn") first)
  | "curry", some callee, arguments =>
    settled (.ok (.function callee.name callee.arity (callee.captured ++ arguments.map Sum.inl)))
  | "curry", none, _ => settled (failed (.wrongType v.longTypeName "Fn") p)
  | _, _, _ =>
    match v.bare with
    | .map entries =>
      match (Entries.find entries name).bind callee? with
      | some callee => bound callee arguments
      | none => plain
    | _ => plain

/-- Reads a property of a value that is no map. Neither that nor the value itself may be too
large. -/
def getter (env : Env) (whole : Value) (name : String) (p : Place) : Settled Value :=
  match Access.property whole name with
  | .error c => failed c p
  | .ok v =>
    match env.limits.excessOf? v <|> env.limits.excessOf? whole with
    | some limit => failed (.tooMuch limit) p
    | none => .ok v

/-- The entry of a constant, which is constant too. -/
def fixedEntry (fixed : Option Value) (name : String) : Option Value :=
  Access.fixedPart fixed (.string name)

/-- Writes a property of a value that is no map: its tag, which is the only one. -/
def setter (target : Holding) (name : String) (v : Value) (p : Place) : Settled Unit × Value :=
  let whole := target.value
  match name, v.bare with
  | "tag", .int n =>
    if target.isConstant then (failed (.constantProperty name) p, whole)
    else
      match Library.retagged whole n.toInt with
      | .ok whole => (.ok (), whole)
      | .error c => (failed c p, whole)
  | _, _ => (failed (Access.unwritable whole name v) p, whole)

/-- Gives a property that may have changed back to the value that it was read from, unless it
can only be read. -/
def fedBack (target : Holding) (name : String) (v : Value) (p : Place) : Settled Unit × Value :=
  match setter target name v p with
  | (.error (.failed ⟨.noProperty _, _⟩), whole) => (.ok (), whole)
  | settled => settled

/-- Where a chain ends. -/
structure Arrival where
  /-- The value at its end. -/
  result : Settled Value
  /-- The first value as the chain leaves it. -/
  first : Value
  /-- Whether the chain may have changed the values on its way. -/
  mayChange : Bool

/-- Follows a chain from a value. -/
def follow (env : Env) (ev : Evaluator) : Holding → List Step → Eval Arrival
  | target, [] => pure ⟨.ok target.value, target.value, false⟩
  | target, step :: rest => do
    let whole := target.value
    let ended (result : Settled Value) : Eval Arrival := pure ⟨result, whole, false⟩
    let beyond (v : Value) (first : Value) : Eval Arrival := do
      pure { ← follow env ev (.free v) rest with first := first }
    if step.isOptional && whole.isUnit then ended (.ok .unit)
    else
      match step with
      | .index at_ _ mark p => do
        tick env none
        match Access.part whole at_ with
        | .error c => ended (failedIndex c mark p)
        | .ok (.inPlace v) => do
          let end_ ← follow env ev ⟨v, Access.fixedPart target.fixed at_⟩ rest
          let first := if rest.isEmpty then whole else Access.put whole at_ end_.first
          pure { end_ with first := first }
        | .ok .absent => beyond .unit whole
        | .ok (.copied v) =>
          match rest with
          | .method name arguments first isOptional p :: rest =>
            if isOptional && v.isUnit then ended (.ok .unit)
            else do
              let called ← method env ev (.free v) name arguments first p
              match called.result with
              | .error i => ended (.error i)
              | .ok v =>
                let put :=
                  if called.putsBack then Access.write whole at_ called.target else .ok whole
                match put with
                | .error c => ended (failed c p)
                | .ok whole => do
                  let end_ ← follow env ev (.free v) rest
                  let mayChange := if rest.isEmpty then called.putsBack else end_.mayChange
                  pure ⟨end_.result, whole, mayChange⟩
          | _ => beyond v whole
      | .property name _ p =>
        match whole.bare with
        | .map entries => do
          tick env none
          match Entries.find entries name with
          | some v => do
            let end_ ← follow env ev ⟨v, fixedEntry target.fixed name⟩ rest
            let first := if rest.isEmpty then whole else Access.put whole (.string name) end_.first
            pure { end_ with first := first }
          | none => beyond .unit whole
        | _ => do
          tick env (some p)
          match getter env whole name p with
          | .error i => ended (.error i)
          | .ok v => do
            let end_ ← follow env ev (.free v) rest
            match end_.result, end_.mayChange with
            | .ok v, true =>
              let (settled, whole) := fedBack target name end_.first p
              pure ⟨settled.map fun () => v, whole, true⟩
            | result, mayChange => pure ⟨result, whole, mayChange⟩
      | .method name arguments first _ p => do
        let called ← method env ev target name arguments first p
        match called.result with
        | .error i => pure ⟨.error i, called.target, false⟩
        | .ok v =>
          if rest.isEmpty then pure ⟨.ok v, called.target, called.putsBack⟩
          else beyond v called.target

/-- How a value is assigned. -/
structure Change where
  /-- The operator that it goes through. -/
  through : Option String
  /-- The assigned value. -/
  value : Value
  /-- Where the assignment stands. -/
  place : Place
  /-- The name of the variable that changes, which a complaint about a constant
  names. -/
  root : String
  /-- Where that variable stands. -/
  rootPlace : Place

/-- Takes steps of evaluation. -/
def ticks (env : Env) (p : Place) : Nat → Eval Unit
  | 0 => pure ()
  | n + 1 => do
    tick env (some p)
    ticks env p n

/-- The new value of something that had a value before. -/
def Change.apply (env : Env) (change : Change) (before : Holding) : Eval Value := do
  if before.isConstant then fail (.constantChanged change.root) change.rootPlace
  match change.through with
  | none => pure change.value
  | some symbol =>
    let outcome := Operator.through symbol before.value change.value
    ticks env change.place outcome.lookups
    let v ← ofExcept change.place outcome.result
    match outcome.watch with
    | .nothing => pure ()
    | .old => fits env change.place before.value
    | .new => fits env change.place v
    | .changed => fits env change.rootPlace v
    pure v

/-- The new value of an entry or an item, which the whole may be too large for. -/
def Change.attempt (env : Env) (change : Change) (before : Holding) : Eval (Settled Value) :=
  Eval.attempt (change.apply env before)

/-- What an assignment came to if a value must not be too large. -/
def Change.bounded (env : Env) (change : Change) (v : Value) : Settled Unit :=
  match env.limits.excessOf? v with
  | some limit => failed (.tooMuch limit) change.place
  | none => .ok ()

/-- Assigns to the part at an index. -/
def assignIndex (env : Env) (change : Change) (target : Holding) (at_ : Value)
    (mark p : Place) : Eval (Settled Unit × Value) := do
  let whole := target.value
  tick env none
  match Access.part whole at_ with
  | .error (.noIndexer _) =>
    pure (failed (Access.unassignable whole at_ change.value) mark, whole)
  | .error c => pure (failedIndex c mark p, whole)
  | .ok (.inPlace v) =>
    match ← change.attempt env ⟨v, Access.fixedPart target.fixed at_⟩ with
    | .error i => pure (.error i, whole)
    | .ok v => pure (change.bounded env v, Access.put whole at_ v)
  | .ok .absent =>
    match ← change.attempt env (.free .unit) with
    | .error i => pure (.error i, Access.put whole at_ .unit)
    | .ok v => pure (change.bounded env v, Access.put whole at_ v)
  | .ok (.copied v) =>
    match ← change.attempt env (.free v) with
    | .error i => pure (.error i, whole)
    | .ok v =>
      match Access.write whole at_ v with
      | .error c => pure (failed c change.place, whole)
      | .ok whole => pure (.ok (), whole)

/-- Assigns to a property. -/
def assignProperty (env : Env) (change : Change) (target : Holding) (name : String) (p : Place) :
    Eval (Settled Unit × Value) := do
  let whole := target.value
  match whole.bare with
  | .map entries =>
    tick env none
    let entry := Entries.find entries name
    let withEntry (v : Value) : Value := Access.put whole (.string name) v
    match ← change.attempt env ⟨entry.getD .unit, fixedEntry target.fixed name⟩ with
    | .error i => pure (.error i, withEntry (entry.getD .unit))
    | .ok v => pure (change.bounded env (withEntry v), withEntry v)
  | _ =>
    tick env (some p)
    if change.through.isNone then pure (setter target name change.value p)
    else
      match getter env whole name p with
      | .error i => pure (.error i, whole)
      | .ok before =>
        match ← change.attempt env (.free before) with
        | .error i => pure (.error i, whole)
        | .ok v => pure (setter target name v p)

/-- Assigns at the end of a chain. Gives the first value as it is then. -/
def assignAt (env : Env) (ev : Evaluator) (change : Change) :
    Holding → List Step → Eval (Settled Unit × Value)
  | target, [] => pure (.ok (), target.value)
  | target, step :: rest => do
    let whole := target.value
    if step.isOptional && whole.isUnit then pure (.ok (), whole)
    else
      match step, rest with
      | .index at_ _ mark p, [] => assignIndex env change target at_ mark p
      | .property name _ p, [] => assignProperty env change target name p
      | .index at_ _ mark p, rest => do
        tick env none
        match Access.part whole at_ with
        | .error c => pure (failedIndex c mark p, whole)
        | .ok (.inPlace v) => do
          let (result, v) ← assignAt env ev change ⟨v, Access.fixedPart target.fixed at_⟩ rest
          pure (result, Access.put whole at_ v)
        | .ok part => do
          let (result, _) ← assignAt env ev change (.free part.value) rest
          pure (result, whole)
      | .property name _ p, rest =>
        match whole.bare with
        | .map entries => do
          tick env none
          match Entries.find entries name with
          | some v => do
            let (result, v) ← assignAt env ev change ⟨v, fixedEntry target.fixed name⟩ rest
            pure (result, Access.put whole (.string name) v)
          | none => do
            let (result, _) ← assignAt env ev change (.free .unit) rest
            pure (result, whole)
        | _ => do
          tick env (some p)
          match getter env whole name p with
          | .error i => pure (.error i, whole)
          | .ok v => do
            match ← assignAt env ev change (.free v) rest with
            | (.ok (), v) => pure (fedBack target name v p)
            | (result, _) => pure (result, whole)
      | .method name arguments first _ p, rest => do
        let called ← method env ev target name arguments first p
        match called.result with
        | .error i => pure (.error i, called.target)
        | .ok v => do
          let (result, _) ← assignAt env ev change (.free v) rest
          pure (result, called.target)

/-- Where a value lives. -/
inductive Root where
  /-- In a variable. -/
  | variable (found : Found)
  /-- In the value that the function is bound to. -/
  | self
  /-- Nowhere: it was made for the occasion. -/
  | fresh

/-- The value that the function is bound to. -/
def selfHolding (p : Place) : Eval Holding := do
  match (← get).self with
  | some h => pure h
  | none => fail .unboundSelf p

/-- What a name means: a variable, or a function if no variable of that name was in sight
when the script was read. -/
def variableRoot (env : Env) (name : String) (sight : Sight) (p : Place) :
    Eval (Root × Holding) := do
  match ← find? name sight, sight with
  | some f, _ => pure (.variable f, ← holding f.content)
  | none, .unseen =>
    match env.program.named? name with
    | some f => pure (.fresh, .free (.function name (some f.parameters.length) []))
    | none => fail (.noVariable name) p
  | none, _ => fail (.noVariable name) p

/-- A name behind module names: only the constants of the top level are a
module. -/
def pathRoot (modules : List String) (name : String) (p : Place) : Eval Holding := do
  match modules with
  | ["global"] =>
    match Entries.find (← get).constants name with
    | some v => pure (.constant v)
    | none => fail (.noVariable ("global::" ++ name)) p
  | _ => fail (.noModule (String.intercalate "::" modules)) p

/-- Evaluates the root of a chain. -/
def root (env : Env) (ev : Evaluator) (e : Expression) : Eval (Root × Holding) := do
  match e with
  | .var name sight p =>
    tick env (some p)
    variableRoot env name sight p
  | .self p =>
    tick env (some p)
    pure (.self, ← selfHolding p)
  | .path modules name start p =>
    tick env (some p)
    pure (.fresh, ← pathRoot modules name start)
  | e => pure (.fresh, .free (← ev.expression e))

/-- Puts a changed root back. -/
def restore (r : Root) (v : Value) : Eval Unit :=
  match r with
  | .variable f => store f v
  | .self => modify fun w => { w with self := w.self.map fun h => { h with value := v } }
  | .fresh => pure ()

/-- Evaluates something while the root of a chain is in use. -/
def Root.using {α : Type} (r : Root) (m : Eval α) : Eval α :=
  match r with
  | .variable ⟨_, .shared cell⟩ => locking cell m
  | _ => m

/-- Whether a root is shared with closures. -/
def Root.isShared : Root → Bool
  | .variable ⟨_, .shared _⟩ => true
  | _ => false

/-- Whether a chain has a method call, so that it may change its root. -/
def mayChange : List Step → Bool
  | [] => false
  | .method .. :: _ => true
  | _ :: rest => mayChange rest

/-- Evaluates a chain. -/
def chain (env : Env) (ev : Evaluator) (first : Expression) (links : List Link) : Eval Value := do
  let path ← steps env ev links
  let (r, h) ← root env ev first
  match path with
  | [.method "is_shared" [] _ _ _] => pure (.bool r.isShared)
  | path =>
    let end_ ← r.using (follow env ev h path)
    if mayChange path then restore r end_.first
    settle end_.result

/-- The name by which a complaint knows the root of a chain. -/
def rootName : Expression → String
  | .var name _ _ | .path _ name _ _ => name
  | _ => ""

/-- Assigns to a variable, the bound value or the end of a chain. -/
def assign (env : Env) (ev : Evaluator) (target : Expression) (symbol : Option String)
    (value : Expression) (p : Place) : Eval Unit := do
  let v ← ev.expression value
  let change (e : Expression) : Change := ⟨symbol, v, p, rootName e, e.start⟩
  match target with
  | .chain first links _ =>
    let path ← steps env ev links
    let (r, h) ← root env ev first
    let (result, v) ← r.using (assignAt env ev (change first) h path)
    restore r v
    settle result
  | .self q =>
    let h ← selfHolding q
    restore .self (← (change target).apply env h)
  | .var name sight q =>
    let (r, h) ← variableRoot env name sight q
    match r with
    | .fresh => fail (.constantChanged name) q
    | r =>
      tick env (some q)
      restore r (← (change target).apply env h)
  | .path modules name start q =>
    let _ ← pathRoot modules name start
    fail (.constantChanged name) q
  | e => fail (.constantChanged "") e.place

end MazeRobot.Script.Evaluation
