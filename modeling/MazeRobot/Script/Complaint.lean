/-!
# Places and complaints

A place in a script is a line and a character on it, both counted from one. A
complaint is the reason why a text is no script; its wording lives here and
nowhere else.
-/

namespace MazeRobot.Script

/-- A place in a script. -/
structure Place where
  /-- The line, counted from one. -/
  line : Nat
  /-- The character on the line, counted from one. -/
  column : Nat
  deriving DecidableEq, Repr, Inhabited

namespace Place

/-- The place of what has none. -/
def nowhere : Place := ⟨0, 0⟩

/-- The wording of a place. -/
def text (p : Place) : String :=
  s!"line {p.line}, position {p.column}"

end Place

/-- Why a text is no script. -/
inductive Complaint where
  /-- A certain token is missing. -/
  | missing (token why : String)
  /-- A token that cannot stand here, or a character that begins none. -/
  | unexpected (token : String)
  /-- The text ends where an expression must begin. -/
  | incomplete
  /-- A symbol that is no operator. -/
  | unknownOperator (symbol : String)
  /-- A variable must be named here. -/
  | variableExpected
  /-- A property must be named here. -/
  | propertyExpected
  /-- A function must be named here. -/
  | functionNameExpected
  /-- A function without its list of parameters. -/
  | parametersExpected (function : String)
  /-- A function without its body. -/
  | bodyExpected (function : String)
  /-- A second function of the same name and number of parameters. -/
  | duplicateFunction (function : String) (parameters : Nat)
  /-- A second parameter of the same name. -/
  | duplicateParameter (function parameter : String)
  /-- A second variable of the same name. -/
  | duplicateVariable (name : String)
  /-- A second property of the same name. -/
  | duplicateProperty (name : String)
  /-- A function inside a block. -/
  | nestedFunction
  /-- Something is shown to others from inside a block. -/
  | nestedExport
  /-- An expression of some kind is missing. -/
  | expressionExpected (kind : String)
  /-- An expression of one kind where another is wanted. -/
  | wrongKind (wanted actual : String)
  /-- An assignment to a constant, or to a literal when the name is empty. -/
  | constantAssigned (name : String)
  /-- An assignment to something that holds no value. -/
  | notAssignable
  /-- A way out of a loop outside of any loop. -/
  | noLoop
  /-- A case behind the one for all other values. -/
  | defaultNotLast
  /-- A condition on the case for all other values. -/
  | conditionOnDefault
  /-- A number behind a range among the cases. -/
  | numberAfterRange
  /-- A text without its end. -/
  | openString
  /-- No single character between single quotes. -/
  | badCharacter (text : String)
  /-- A backslash before something that means nothing. -/
  | badEscape (text : String)
  /-- Digits that are no number. -/
  | badNumber (text : String)
  /-- Underscores and digits that are no name. -/
  | badName (text : String)
  /-- A word that is kept for later. -/
  | reservedWord (word : String)
  /-- A symbol that is kept for later. -/
  | reservedSymbol (symbol : String)
  /-- A symbol or word with an explanation of its own. -/
  | improper (explanation : String)
  /-- An index of a kind that the indexed literal does not take. -/
  | badIndex (explanation : String)
  /-- A method call that asks for the variables of its caller. -/
  | scopedMethod
  /-- A text literal of too many bytes. -/
  | stringTooLong (limit : Nat)
  /-- An array or map literal of too many items. -/
  | literalTooLarge (what : String) (limit : Nat)
  /-- Too much nesting. -/
  | tooDeep
  deriving DecidableEq, Repr

namespace Complaint

/-- The number of parameters in words. -/
def parameterCount : Nat → String
  | 0 => "no parameters"
  | 1 => "1 parameter"
  | n => s!"{n} parameters"

/-- The wording of a complaint. -/
def message : Complaint → String
  | missing token why => s!"Expecting '{token}' {why}"
  | unexpected token => s!"Unexpected '{token}'"
  | incomplete => "Script is incomplete"
  | unknownOperator symbol => s!"Unknown operator: '{symbol}'"
  | variableExpected => "Expecting name of a variable"
  | propertyExpected => "Expecting name of a property"
  | functionNameExpected => "Expecting function name in function declaration"
  | parametersExpected function => s!"Expecting parameters for function {function}"
  | bodyExpected function => s!"Expecting body statement block for function {function}"
  | duplicateFunction function parameters =>
    s!"Function {function} with {parameterCount parameters} already exists"
  | duplicateParameter function parameter =>
    s!"Duplicated parameter {parameter} for function {function}"
  | duplicateVariable name => s!"Duplicated variable name: {name}"
  | duplicateProperty name => s!"Duplicated property for object map literal: {name}"
  | nestedFunction =>
    "Function definitions must be at global level and cannot be inside a block or another function"
  | nestedExport => "Export statement can only appear at global level"
  | expressionExpected kind => s!"Expecting {kind} expression"
  | wrongKind wanted actual => s!"Expecting {wanted}, not {actual}"
  | constantAssigned name =>
    if name = "" then "Cannot assign to a constant value"
    else s!"Cannot assign to constant {name}"
  | notAssignable => "Expression cannot be assigned to"
  | noLoop => "Break statement should only be used inside a loop"
  | defaultNotLast => "Default switch case must be the last"
  | conditionOnDefault => "This switch case cannot have a condition"
  | numberAfterRange => "Numeric switch case cannot follow a range case"
  | openString => "Open string is not terminated"
  | badCharacter text => s!"Invalid character: '{text}'"
  | badEscape text => s!"Invalid escape sequence: '{text}'"
  | badNumber text => s!"Invalid number: '{text}'"
  | badName text => s!"Variable name is not proper: '{text}'"
  | reservedWord word => s!"'{word}' is a reserved keyword"
  | reservedSymbol symbol => s!"'{symbol}' is a reserved symbol"
  | improper explanation => explanation
  | badIndex explanation => explanation
  | scopedMethod => "method-call style does not support running within the caller's scope"
  | stringTooLong limit => s!"Length of string exceeds the maximum limit ({limit})"
  | literalTooLarge what limit => s!"{what} exceeds the maximum limit ({limit})"
  | tooDeep => "Expression exceeds maximum complexity"

end Complaint

/-- A complaint about a place, if it has one. -/
structure ParseError where
  /-- The reason. -/
  complaint : Complaint
  /-- Where it shows. -/
  place : Place
  deriving DecidableEq, Repr

namespace ParseError

/-- The place of the error, if it has one. -/
def place? (e : ParseError) : Option Place :=
  if e.place = .nowhere then none else some e.place

/-- The wording of the error. -/
def message (e : ParseError) : String :=
  match e.place? with
  | none => e.complaint.message
  | some p => s!"{e.complaint.message} ({p.text})"

end ParseError

end MazeRobot.Script
