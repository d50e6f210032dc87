import MazeRobot.Script.FunctionName
import MazeRobot.Script.Tree
import MazeRobot.Script.Value.Shown

/-!
# Values that are known before a script runs

A literal has a value, and so has an array, a map or a text that is made of
literals only. A range between integers is no literal, but may be the label of a
case; and so may a function that is named by a text.
-/

namespace MazeRobot.Script

namespace Expression

mutual

/-- Whether an expression is made of literals only. -/
def isConstant : Expression → Bool
  | literal .. => true
  | template parts _ => areConstant parts
  | array items _ => areConstant items
  | map entries _ => entriesConstant entries
  | _ => false

/-- Whether all expressions are made of literals only. -/
def areConstant : List Expression → Bool
  | [] => true
  | e :: rest => isConstant e && areConstant rest

/-- Whether all entries are made of literals only. -/
def entriesConstant : List (String × Expression) → Bool
  | [] => true
  | (_, e) :: rest => isConstant e && entriesConstant rest

end

mutual

/-- The value of an expression that is made of literals only. -/
def constant? : Expression → Option Value
  | literal v _ => some v
  | template parts _ => (constants? parts).map fun vs => .string (String.join (vs.map Value.text))
  | array items _ => (constants? items).map fun vs => .array vs.toArray
  | map entries _ =>
    (constantEntries? entries).map fun all =>
      .map (all.foldl (fun map entry => Entries.put entry.1 entry.2 map) [])
  | _ => none

/-- The values of expressions that are made of literals only. -/
def constants? : List Expression → Option (List Value)
  | [] => some []
  | e :: rest =>
    match constant? e, constants? rest with
    | some v, some vs => some (v :: vs)
    | _, _ => none

/-- The values of entries that are made of literals only. -/
def constantEntries? : List (String × Expression) → Option (List (String × Value))
  | [] => some []
  | (name, e) :: rest =>
    match constant? e, constantEntries? rest with
    | some v, some all => some ((name, v) :: all)
    | _, _ => none

end

/-- The integers of an open or closed range; a missing bound is the least that
counts or the greatest of all. -/
def rangeOf? (low high : Value) (closed : Bool) : Option Value :=
  match low, high with
  | .int a, .int b => some (.range a b closed)
  | .int a, .unit => some (.range a Int64.maxValue closed)
  | .unit, .int b => some (.range 0 b closed)
  | .unit, .unit => some (.range 0 Int64.maxValue closed)
  | _, _ => none

/-- The value of an expression that may be a label. -/
def label? : Expression → Option Value
  | operator symbol [.literal low _, .literal high _] _ =>
    if symbol = ".." then rangeOf? low high false
    else if symbol = "..=" then rangeOf? low high true
    else none
  | call "Fn" [.literal (.string name) _] _ _ =>
    if (FunctionName.fault? name).isNone then some (.function name none []) else none
  | e => e.constant?

end Expression

namespace Value

/-- Whether a value is a range. -/
def isRange : Value → Bool
  | range .. => true
  | _ => false

/-- Whether a value is a range without integers. -/
def isEmptyRange : Value → Bool
  | range low high closed => if closed then high < low else high ≤ low
  | _ => false

/-- Whether a value is a range with integers. -/
def isFullRange (v : Value) : Bool :=
  v.isRange && !v.isEmptyRange

/-- Whether a range holds a number, which may have a fraction. -/
def isInRange (v : Value) : Value → Bool
  | range low high closed =>
    match v.bare with
    | int n => low ≤ n && (if closed then n ≤ high else n < high)
    | float x =>
      Float.ofInt low.toInt ≤ x &&
        (if closed then x ≤ Float.ofInt high.toInt else x < Float.ofInt high.toInt)
    | _ => false
  | _ => false

end Value

end MazeRobot.Script
