import MazeRobot.Script.Known
import MazeRobot.Script.Reader

/-!
# Checks on expressions

Some mistakes show before a script runs: a literal where a truth value or
something to iterate over is wanted, an assignment to something that holds no
value, an index of the wrong kind.
-/

namespace MazeRobot.Script.Grammar

open Reading

/-- What a literal is, in words. -/
def literalKind? : Expression → Option String
  | .literal v _ =>
    match v with
    | .unit => some "()"
    | .bool _ => some "a boolean"
    | .int _ => some "a number"
    | .float _ => some "a floating-point number"
    | .char _ => some "a character"
    | .string _ => some "a string"
    | v => some v.typeName
  | .template .. => some "a string"
  | .array .. => some "an array"
  | .map .. => some "an object map"
  | _ => none

/-- Refuses a literal that is no truth value. -/
def wantBool (e : Expression) : Reading Expression :=
  match e with
  | .literal (.bool _) _ => pure e
  | _ =>
    match literalKind? e with
    | some kind => fail (.wrongKind "a boolean expression" kind) e.start
    | none => pure e

/-- Refuses a literal that has no items. -/
def wantIterable (e : Expression) : Reading Expression :=
  match e with
  | .array .. | .template .. | .literal (.string _) _ | .literal (.function ..) _ => pure e
  | _ =>
    match literalKind? e with
    | some kind => fail (.wrongKind "an iterable value" kind) e.start
    | none => pure e

/-- Refuses a block where a condition must stand. -/
def noBlock : Reading Unit := do
  let found ← peek
  if found.token = .symbol "\x7b" then fail (.expressionExpected "a boolean") found.place

/-- Refuses a plain assignment behind a condition. -/
def noAssignment : Reading Unit := do
  let found ← peek
  if found.token = .symbol "=" then fail (.improper "Possibly a typo of '=='?") found.place

/-- The operators that assign through another operator. -/
def assignments : List String :=
  ["+=", "-=", "*=", "/=", "%=", "**=", "<<=", ">>=", "|=", "&=", "^="]

/-- The method call that keeps a chain from holding a value. -/
def methodIn? : List Link → Option Place
  | [] => none
  | .method _ _ _ _ p :: _ => some p
  | _ :: rest => methodIn? rest

/-- Refuses to assign to something that holds no value. `p` is the place of the
assignment, which goes through an operator or not. -/
def wantAssignable (target : Expression) (plain : Bool) (p : Place) : Reading Unit := do
  match target with
  | .self _ | .path .. => pure ()
  | .var name _ place =>
    if ((← get).scope.find? (·.name == name)).any (·.isConstant) then
      fail (.constantAssigned name) place
  | .chain root links _ =>
    match methodIn? links with
    | some place => fail .notAssignable place
    | none =>
      match root with
      | .var .. | .path .. | .self _ => pure ()
      | _ => fail .notAssignable root.place
  | .both .. | .either .. | .orElse .. =>
    if plain then fail (.improper "Possibly a typo of '=='?") p
    else fail .notAssignable target.place
  | _ =>
    if target.isConstant then fail (.constantAssigned "") target.start
    else fail .notAssignable target.place

/-- What an index that names nothing is, in words. -/
def indexKind? : Expression → Option String
  | .literal (.float _) _ => some "a float"
  | .literal (.char _) _ => some "a character"
  | .literal .unit _ => some "()"
  | .literal (.bool _) _ | .both .. | .either .. => some "a boolean"
  | _ => none

/-- Refuses a literal that cannot be an index of a literal. -/
def wantIndex (root index : Expression) : Reading Unit :=
  let refuse (what : String) : Reading Unit := fail (.badIndex what) index.start
  let number : Reading Unit :=
    match index with
    | .literal (.string _) _ | .template .. =>
      refuse "Array, string or bit-field expects numeric index, not a string"
    | _ =>
      match indexKind? index with
      | some kind => refuse s!"Array, string or bit-field expects integer index, not {kind}"
      | none => pure ()
  match root with
  | .map .. =>
    match index with
    | .literal (.int _) _ => refuse "Object map expects string index, not a number"
    | _ =>
      match indexKind? index with
      | some kind => refuse s!"Object map expects string index, not {kind}"
      | none => pure ()
  | .literal (.int _) _ | .literal (.string _) _ | .array .. | .template .. => number
  | _ => pure ()

end MazeRobot.Script.Grammar
