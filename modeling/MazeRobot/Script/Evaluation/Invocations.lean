import MazeRobot.Script.Description
import MazeRobot.Script.Evaluation.Callbacks
import MazeRobot.Script.Grammar.Data

/-!
# Calls by name

A function of the script comes before a command of the robot, and that before a
function of the library. A method for values of one type comes before one for
all. What a function of the library gives must not be too large, and neither must
the variable that it was called on.
-/

namespace MazeRobot.Script.Evaluation

open Eval

/-- A failure at the place of a call. -/
def Invocation.failed (c : Invocation) (cause : Cause) : Outcome :=
  (.error (.failed ⟨cause, some c.place⟩), c.target.map (·.value))

/-- The result of a call, unless it or the changed target is too large. -/
def sized (env : Env) (c : Invocation) (v : Value) (after : Option Value) : Outcome :=
  let target := c.target.map fun h => after.getD h.value
  match env.limits.excessOf? v <|> target.bind env.limits.excessOf? with
  | some limit => (.error (.failed ⟨.tooMuch limit, some c.place⟩), target)
  | none => (.ok v, target)

/-- Makes a call of the robot. -/
def command (env : Env) (c : Invocation) (call : Call) : Eval Outcome := do
  let isPrinting := c.name == "print" || c.name == "debug"
  let excess :=
    match call with
    | .log text => if isPrinting then env.limits.excessOf? (.string text) else none
    | _ => none
  match excess with
  | some limit => pure (Invocation.failed c (.tooMuch limit))
  | none =>
    let reply ← ask call
    match Commands.value call reply with
    | .ok v => pure (sized env c v none)
    | .error cause => pure (Invocation.failed c cause)

/-- Reads data from a text. Steps taken on the way do not count. -/
def parsed (env : Env) (ev : Evaluator) (c : Invocation) (text : String) : Eval Outcome := do
  match Data.ofText env.limits text with
  | .error e => pure (.error (.failed ⟨.malformed e.complaint, e.place?⟩), none)
  | .ok e =>
    match ← attempt (apart (ev.foreign e)) with
    | .error (.failed f) => pure (.error (.failed (f.at_ (some c.place))), none)
    | .error i => pure (.error i, none)
    | .ok v =>
      if v.isMap then pure (sized env c v none)
      else pure (Invocation.failed c (.wrongOutput v.longTypeName "map"))

/-- Calls a function that is neither a command nor made of values alone. -/
def special (env : Env) (ev : Evaluator) (c : Invocation) (values : List Value) :
    Eval Outcome :=
  match c.name, values with
  | "parse_json", [.string text] => parsed env ev c text
  | "exit", [] | "exit", [_] => pure (.error .exit, none)
  | name, values =>
    match env.program.described? name values with
    | some v => pure (sized env c v none)
    | none => pure (Invocation.failed c (Operator.undefined name values))

/-- Calls a function that is not one of the script. -/
def native (env : Env) (ev : Evaluator) (c : Invocation) (values : List Value) :
    Eval Outcome := do
  tick env (some c.place)
  let bare := values.map Value.bare
  let isForbidden :=
    match c.target, values with
    | some h, first :: others => h.isConstant && Library.mayChange c.name first others
    | _, _ => false
  let finished (outcome : Outcome) : Outcome :=
    match outcome with
    | (.ok v, after) => sized env c v after
    | (.error (.failed f), after) =>
      (.error (.failed (f.at_ (some c.place))), after <|> c.target.map (·.value))
    | (.error i, after) => (.error i, after <|> c.target.map (·.value))
  match Commands.call? c.name bare with
  | some call => command env c call
  | none =>
    match callback? env ev c.name bare (c.target.bind (·.fixed)) c.place,
        Library.call? env.limits c.name values with
    | none, none => special env ev c bare
    | some run, _ =>
      if isForbidden then pure (Invocation.failed c (.constantMethod c.name))
      else
        let (result, after) ← run
        let first := values.head?.getD .unit
        pure (finished (result, after.map first.inPlaceOf))
    | none, some result =>
      if isForbidden then pure (Invocation.failed c (.constantMethod c.name))
      else
        match result with
        | .ok n => pure (sized env c n.value n.first)
        | .error cause => pure (Invocation.failed c cause)

/-- The function of the script that a call means. -/
def script? (env : Env) (c : Invocation) : Option Function :=
  let count := c.captured.length + c.arguments.length
  match c.target with
  | none => env.program.function? c.name count
  | some h =>
    if c.isMethod then env.program.method? h.value.typeName c.name count
    else env.program.function? c.name (count + 1)

/-- Calls what a name means for some arguments. -/
def dispatch (env : Env) (ev : Evaluator) (c : Invocation) : Eval Outcome := do
  let w ← get
  let others := c.captured.map (uncaptured w) ++ c.arguments
  let target := c.target.map (·.value)
  let values := target.toList ++ others
  match c.name, values with
  | "type_of", [v] => pure (.ok (.string v.typeName), target)
  | "is_shared", [_] => pure (.ok (.bool false), target)
  | _, _ =>
    match script? env c with
    | some f =>
      if f.body.isEmpty then pure (.ok .unit, target)
      else if c.isMethod then
        callScript env ev f c.captured c.arguments c.target c.seesCaller c.place
      else do
        let captured := (target.toList.map Sum.inl) ++ c.captured
        let (result, _) ← callScript env ev f captured c.arguments none c.seesCaller c.place
        pure (result, target)
    | none => native env ev c values

/-- What a call comes to. Values that use a cell that is in use cannot be passed
on. -/
def invoke (env : Env) (ev : Evaluator) (c : Invocation) : Eval Outcome := do
  match raced? (← get).locked c with
  | some n =>
    pure (.error (.failed ⟨.dataRace s!"argument #{n} of function '{c.name}'", none⟩),
      c.target.map (·.value))
  | none => deeper (dispatch env ev c)

end MazeRobot.Script.Evaluation
