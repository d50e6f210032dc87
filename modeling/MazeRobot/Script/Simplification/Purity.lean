import MazeRobot.Script.Known

/-!
# What can be left out

An expression is pure if it is made of nothing but literals, so that its evaluation
can change nothing and does not fail; a variable is pure too, whether there is one of
that name or not. A statement is pure if all its parts are and it comes to an end.
Declarations count as pure only for those who do not see the variables.
-/

namespace MazeRobot.Script

namespace Expression

/-- Whether an expression is the literal of a truth value. -/
def isBool (b : Bool) : Expression → Bool
  | literal (.bool c) _ => b == c
  | _ => false

/-- Whether an expression is the literal of the unit. -/
def isUnit : Expression → Bool
  | literal .unit _ => true
  | _ => false

end Expression

mutual

/-- Whether the evaluation of an expression can be left out. -/
def Expression.isPure : Expression → Bool
  | .template parts _ => Expression.areConstant parts
  | .array items _ => Expression.areConstant items
  | .both operands _ => Expression.areConstant operands
  | .either operands _ => Expression.areConstant operands
  | .orElse operands _ => Expression.areConstant operands
  | .block body _ => Statement.arePure body
  | .var .. => true
  | .path .. => true
  | .literal .. => true
  | .map entries _ => Expression.entriesConstant entries
  | _ => false

/-- Whether a statement can be left out. -/
def Statement.isPure : Statement → Bool
  | .skip _ => true
  | .value e => Expression.isPure e
  | .cond guard yes no _ =>
    Expression.isPure guard && Statement.arePure yes && Statement.arePure no
  | .loop (some guard) _ _ _ => guard.isBool false
  | .doLoop body guard goOn _ => guard.isBool (!goOn) && Statement.arePure body
  | .each _ _ source body _ _ => source.isConstant && Statement.arePure body
  | .block body _ => Statement.arePure body
  | .attempt body _ handler _ => Statement.arePure body && Statement.arePure handler
  | _ => false

/-- Whether all statements can be left out. -/
def Statement.arePure : List Statement → Bool
  | [] => true
  | s :: rest => Statement.isPure s && Statement.arePure rest

end

mutual

/-- Whether a statement can be left out inside a block that ends with it. -/
def Statement.isLocallyPure : Statement → Bool
  | .declare _ e _ _ _ => e.isConstant
  | .load source _ => source.isConstant
  | .publish .. => true
  | .value (.block body _) => Statement.areLocallyPure body
  | s => s.isPure

/-- Whether all statements can be left out inside a block. -/
def Statement.areLocallyPure : List Statement → Bool
  | [] => true
  | s :: rest => Statement.isLocallyPure s && Statement.areLocallyPure rest

end

mutual

/-- Whether a statement means something else outside of its block. -/
def Statement.needsBlock : Statement → Bool
  | .declare .. | .load .. | .publish .. => true
  | .value e => Expression.needsBlock e
  | _ => false

/-- Whether an expression means something else outside of its block. -/
def Expression.needsBlock : Expression → Bool
  | .block body _ => Statement.allNeedBlock body
  | _ => false

/-- Whether all statements mean something else outside of their block. -/
def Statement.allNeedBlock : List Statement → Bool
  | [] => true
  | s :: rest => Statement.needsBlock s && Statement.allNeedBlock rest

end

end MazeRobot.Script
