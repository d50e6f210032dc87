import MazeRobot.Script.Complaint
import MazeRobot.Script.Value

/-!
# Scripts after parsing

A script is a list of statements and a list of functions. An expression has a
value; a statement does something, and may have a value too, because blocks,
choices and loops may stand where an expression is wanted. A chain is a root
followed by links: indexes, properties and method calls. Every part keeps the
place that a complaint about it names.
-/

namespace MazeRobot.Script

/-- How the reader of a script saw a name. -/
inductive Sight where
  /-- No variable of that name was in sight. -/
  | unseen
  /-- A variable was in sight. -/
  | seen
  /-- A variable was in sight, but among variables that are gone when the script runs. The
  name then means the variable at a position, counted from the newest one. -/
  | displaced (position : Nat)

mutual

/-- A part of a script that has a value. -/
inductive Expression where
  /-- A value that is known before the script runs. -/
  | literal (value : Value) (place : Place)
  /-- A text with holes, as its parts in order. -/
  | template (parts : List Expression) (place : Place)
  /-- An array of the values of its items. -/
  | array (items : List Expression) (place : Place)
  /-- A map of the values of its entries. -/
  | map (entries : List (String × Expression)) (place : Place)
  /-- A variable. -/
  | var (name : String) (sight : Sight) (place : Place)
  /-- A variable behind a path of module names, which begins at `start`. -/
  | path (modules : List String) (name : String) (start place : Place)
  /-- The value that the function is bound to. -/
  | self (place : Place)
  /-- A call of a function, which may see the variables of its caller. -/
  | call (name : String) (arguments : List Expression) (seesCaller : Bool) (place : Place)
  /-- A call of a function behind a path of module names, which begins at `start`. -/
  | pathCall (modules : List String) (name : String) (arguments : List Expression)
    (start place : Place)
  /-- A unary or binary operator. -/
  | operator (symbol : String) (operands : List Expression) (place : Place)
  /-- Truth values that must all be true; none counts behind a false one. -/
  | both (operands : List Expression) (place : Place)
  /-- Truth values of which one must be true; none counts behind a true one. -/
  | either (operands : List Expression) (place : Place)
  /-- The first of some values that is not the unit. -/
  | orElse (operands : List Expression) (place : Place)
  /-- A root followed by links. -/
  | chain (root : Expression) (links : List Link) (place : Place)
  /-- A function without a name, and the variables that it shares with its
  maker. -/
  | closure (function : String) (arity : Nat) (captured : List Expression) (place : Place)
  /-- Statements with variables of their own. -/
  | block (body : List Statement) (place : Place)

/-- One step along a chain; an optional step ends the chain at the unit. The
mark is the point or the bracket that begins the step. -/
inductive Link where
  /-- The item at an index. -/
  | index (at_ : Expression) (isOptional : Bool) (mark : Place)
  /-- A property. -/
  | property (name : String) (isOptional : Bool) (mark place : Place)
  /-- A method call. -/
  | method (name : String) (arguments : List Expression) (isOptional : Bool) (mark place : Place)

/-- A part of a script that does something. -/
inductive Statement where
  /-- Nothing at all. -/
  | skip (place : Place)
  /-- An expression for its own sake. -/
  | value (expression : Expression)
  /-- A new variable or constant. One of a name that the same block has declared before
  takes the place of the variable at a position, counted from the newest one. -/
  | declare (name : String) (value : Expression) (constant : Bool) (position : Option Nat)
    (place : Place)
  /-- An assignment, possibly through an operator. -/
  | assign (target : Expression) (symbol : Option String) (value : Expression) (place : Place)
  /-- Statements with variables of their own. -/
  | block (body : List Statement) (place : Place)
  /-- A choice between two blocks. -/
  | cond (guard : Expression) (yes no : List Statement) (place : Place)
  /-- A choice among cases. -/
  | switch (subject : Expression) (cases : List Case) (otherwise : Option Expression)
    (place : Place)
  /-- A loop that ends when its guard fails; without a guard it ends by itself
  only. The brace opens its body. -/
  | loop (guard : Option Expression) (body : List Statement) (brace place : Place)
  /-- A loop that tests its guard behind the body; it goes on while the guard
  equals `goOn`. -/
  | doLoop (body : List Statement) (guard : Expression) (goOn : Bool) (place : Place)
  /-- A loop over the items of a value, possibly counted. -/
  | each (item : String) (counter : Option String) (source : Expression) (body : List Statement)
    (brace place : Place)
  /-- The way out of a loop. -/
  | leave (value : Option Expression) (place : Place)
  /-- The way to the next round of a loop. -/
  | next (place : Place)
  /-- The way out of a function. -/
  | return (value : Option Expression) (place : Place)
  /-- An error raised on purpose. -/
  | throw (value : Option Expression) (place : Place)
  /-- A block, and what to do with an error inside it. -/
  | attempt (body : List Statement) (name : Option String) (handler : List Statement)
    (place : Place)
  /-- A request for a module. -/
  | load (source : Expression) (place : Place)
  /-- A variable that is shown to others, and where its name stands. -/
  | publish (name : String) (at_ place : Place)

/-- A case of a choice: its labels, its condition and what it does. A label is
a value or a range of integers. -/
inductive Case where
  /-- A case. -/
  | mk (labels : List Value) (guard body : Expression)

end

instance : Inhabited Expression := ⟨.literal .unit ⟨0, 0⟩⟩
instance : Inhabited Statement := ⟨.skip ⟨0, 0⟩⟩

namespace Expression

/-- The place that a complaint about the expression as a whole names. For an
operator it is the operator. -/
def place : Expression → Place
  | literal _ p | template _ p | array _ p | map _ p | var _ _ p | path _ _ _ p | self p
  | call _ _ _ p | pathCall _ _ _ _ p | operator _ _ p | both _ p | either _ p | orElse _ p
  | chain _ _ p | closure _ _ _ p | block _ p => p

/-- The place of the first character of an expression, but for a call or an
operator, which stand at their name. -/
def start : Expression → Place
  | both (first :: _) _ | either (first :: _) _ | orElse (first :: _) _ => start first
  | chain root _ _ => start root
  | path _ _ p _ | pathCall _ _ _ p _ => p
  | e => place e

/-- The same expression at another place. -/
def moved (p : Place) : Expression → Expression
  | literal v _ => literal v p
  | template parts _ => template parts p
  | array items _ => array items p
  | map entries _ => map entries p
  | var name sight _ => var name sight p
  | path modules name start _ => path modules name start p
  | self _ => self p
  | call name arguments seesCaller _ => call name arguments seesCaller p
  | pathCall modules name arguments start _ => pathCall modules name arguments start p
  | operator symbol operands _ => operator symbol operands p
  | both operands _ => both operands p
  | either operands _ => either operands p
  | orElse operands _ => orElse operands p
  | chain root links _ => chain root links p
  | closure function arity captured _ => closure function arity captured p
  | block body _ => block body p

/-- Whether an expression is a call or an operator, which a statement makes
without another step. -/
def isCall : Expression → Bool
  | call .. | pathCall .. | operator .. => true
  | _ => false

end Expression

namespace Link

/-- Whether the step is left out when there is nothing before it. -/
def isOptional : Link → Bool
  | index _ b _ | property _ b _ _ | method _ _ b _ _ => b

/-- The point or bracket that begins the step. -/
def mark : Link → Place
  | index _ _ p | property _ _ p _ | method _ _ _ p _ => p

end Link

namespace Statement

/-- The place of a statement. -/
def place : Statement → Place
  | skip p | declare _ _ _ _ p | assign _ _ _ p | block _ p | cond _ _ _ p | switch _ _ _ p
  | loop _ _ _ p | doLoop _ _ _ p | each _ _ _ _ _ p | leave _ p | next p | .return _ p | throw _ p
  | attempt _ _ _ p | load _ p | publish _ _ p => p
  | value e => e.place

/-- Whether nothing behind the statement is reached. -/
def isExit : Statement → Bool
  | leave .. | next _ | .return .. | throw .. => true
  | _ => false

/-- Whether a block that ends with the statement may have a value. -/
def hasValue : Statement → Bool
  | value _ | block .. | cond .. | switch .. => true
  | _ => false

end Statement

/-- A function of a script. -/
structure Function where
  /-- The type of the values that it is a method of, if not of all. -/
  thisType : Option String
  /-- Its name; closures have names that no script can spell. -/
  name : String
  /-- Its parameters, for a closure behind the variables it captures. -/
  parameters : List String
  /-- What it does. -/
  body : List Statement
  /-- Whether it came from a closure. -/
  isClosure : Bool
  /-- Whether it is for the script alone. -/
  isPrivate : Bool

/-- A script after parsing. -/
structure Program where
  /-- The functions, in the order of their definitions. -/
  functions : List Function
  /-- What runs first. -/
  body : List Statement

namespace Program

/-- The function of a name and number of parameters. -/
def function? (p : Program) (name : String) (arity : Nat) : Option Function :=
  p.functions.find? fun f =>
    f.thisType.isNone && f.name == name && f.parameters.length == arity

/-- The method of a name and number of parameters for values of a type: one for
that type alone comes first. -/
def method? (p : Program) (thisType name : String) (arity : Nat) : Option Function :=
  p.functions.find? (fun f =>
    f.thisType == some thisType && f.name == name && f.parameters.length == arity)
    <|> p.function? name arity

/-- The function that a function value stands for, which may be a method. -/
def linked? (p : Program) (name : String) (arity : Nat) : Option Function :=
  p.function? name arity <|>
    p.functions.find? fun f => f.name == name && f.parameters.length == arity

/-- Whether there is a function of a name and number of parameters, for the values of a
type or for all. -/
def defines (p : Program) (thisType : Option String) (name : String) (count : Int) : Bool :=
  p.functions.any fun f =>
    f.thisType == thisType && f.name == name && (f.parameters.length : Int) == count

/-- The function that a bare name means. -/
def named? (p : Program) (name : String) : Option Function :=
  p.functions.find? (·.name == name)

end Program

end MazeRobot.Script
