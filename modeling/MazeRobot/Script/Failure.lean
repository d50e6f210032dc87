import MazeRobot.Script.Complaint
import MazeRobot.Script.Value.Shown

/-!
# Failures

Why the evaluation of a script stops. A failure has a cause and usually a
place, and a script may catch it: what was thrown on purpose is caught as it
is, everything else as a map that describes it. A failure that leaves a
function is wrapped once for each call. Limits that were passed cannot be
caught, nor what ends a script by its nature, unless a function that is not one
of the script wrapped them.
-/

namespace MazeRobot.Script

/-- What a script may use up. -/
inductive Limit where
  /-- Steps of evaluation. -/
  | operations
  /-- The nesting of calls. -/
  | calls
  /-- The bytes of a text. -/
  | string
  /-- The items of an array. -/
  | array
  /-- The entries of a map. -/
  | map
  deriving DecidableEq, Repr

/-- The wording of a limit that was passed. -/
def Limit.message : Limit → String
  | operations => "Too many operations"
  | calls => "Stack overflow"
  | string => "Length of string too large"
  | array => "Size of array/BLOB too large"
  | map => "Size of object map too large"

/-- The name of the kind of a limit that was passed. -/
def Limit.kind : Limit → String
  | operations => "ErrorTooManyOperations"
  | calls => "ErrorStackOverflow"
  | string | array | map => "ErrorDataTooLarge"

/-- Why something failed. -/
inductive Cause where
  /-- A value was thrown. -/
  | thrown (value : Value)
  /-- No variable of that name. -/
  | noVariable (name : String)
  /-- No function of that name for arguments of these types. -/
  | noFunction (signature : String)
  /-- The function is bound to nothing. -/
  | unboundSelf
  /-- A result does not exist or does not fit. -/
  | arithmetic (explanation : String)
  /-- An array has no item there. -/
  | arrayBounds (length : Nat) (index : Int64)
  /-- A text has no character there. -/
  | stringBounds (length : Nat) (index : Int64)
  /-- An integer has no bit there. -/
  | bitBounds (length : Nat) (index : Int64)
  /-- A value of the wrong type. -/
  | wrongType (actual wanted : String)
  /-- A script's value of the wrong type. -/
  | wrongOutput (actual wanted : String)
  /-- A property that cannot be read or written. -/
  | noProperty (explanation : String)
  /-- A value that takes no index of that type. -/
  | noIndexer (types : String)
  /-- A value without items. -/
  | notIterable
  /-- No module of that name. -/
  | noModule (name : String)
  /-- A constant would change. -/
  | constantChanged (name : String)
  /-- A method would change a constant. -/
  | constantMethod (name : String)
  /-- A property of a constant would change. -/
  | constantProperty (name : String)
  /-- A value was in use while it was passed on. -/
  | dataRace (use : String)
  /-- A text is not what a script is made of. -/
  | malformed (why : Complaint)
  /-- A limit was passed. -/
  | tooMuch (limit : Limit)
  /-- The whole evaluation should have ended. -/
  | exited
  /-- A failure inside a function or closure, with its own place. -/
  | inCall (function : String) (isClosure : Bool) (inner : Cause) (place : Option Place)

namespace Cause

/-- The wording of a bound that was missed. -/
def boundsMessage (what item : String) (length : Nat) (index : Int64) : String :=
  let left :=
    if length = 0 then s!"{what} is empty"
    else if length = 1 then s!"only 1 {item} in {what}"
    else s!"only {length} {item}s in {what}"
  s!"index {index.toInt} out of bounds: {left}"

/-- The wording of a place behind a message. -/
def placed (message : String) : Option Place → String
  | some p => s!"{message} ({p.text})"
  | none => message

/-- The wording of a cause. -/
def message : Cause → String
  | thrown value =>
    let text := value.text
    if text = "" then "Runtime error" else "Runtime error: " ++ text
  | noVariable name => s!"Variable not found: {name}"
  | noFunction signature => s!"Function not found: {signature}"
  | unboundSelf => "'this' not bound"
  | arithmetic explanation => explanation
  | arrayBounds length index => "Array " ++ boundsMessage "array" "element" length index
  | stringBounds length index => "String " ++ boundsMessage "string" "character" length index
  | bitBounds length index => "Bit-field " ++ boundsMessage "bit-field" "bit" length index
  | wrongType actual wanted => s!"Data type incorrect: {actual} (expecting {wanted})"
  | noProperty explanation => explanation
  | noIndexer types => s!"Indexer unavailable: {types}"
  | notIterable => "For loop expects iterable type"
  | noModule name => s!"Module not found: {name}"
  | constantChanged name => s!"Cannot modify constant {name}"
  | wrongOutput actual wanted => s!"Output type incorrect: {actual} (expecting {wanted})"
  | constantMethod name => s!"Non-pure method '{name}' cannot be called on constant"
  | constantProperty name => s!"Cannot modify property '{name}' of a constant"
  | dataRace use => s!"Data race detected on {use}"
  | malformed why => "Syntax error: " ++ why.message
  | tooMuch limit => limit.message
  | exited => "NOT AN ERROR - exit value"
  | inCall function isClosure inner place =>
    placed inner.message place ++
      (if isClosure then "\nin closure call" else s!"\nin call to function '{function}'")

/-- The cause that all the calls around it passed on. -/
def innermost : Cause → Cause
  | inCall _ _ inner _ => inner.innermost
  | cause => cause

/-- The name of the kind of a cause. -/
def kind : Cause → String
  | thrown _ => "ErrorRuntime"
  | noVariable _ => "ErrorVariableNotFound"
  | noFunction _ => "ErrorFunctionNotFound"
  | unboundSelf => "ErrorUnboundThis"
  | arithmetic _ => "ErrorArithmetic"
  | arrayBounds .. => "ErrorArrayBounds"
  | stringBounds .. => "ErrorStringBounds"
  | bitBounds .. => "ErrorBitFieldBounds"
  | wrongType .. => "ErrorMismatchDataType"
  | noProperty _ => "ErrorDotExpr"
  | noIndexer _ => "ErrorIndexingType"
  | notIterable => "ErrorFor"
  | noModule _ => "ErrorModuleNotFound"
  | constantChanged _ => "ErrorAssignmentToConstant"
  | wrongOutput .. => "ErrorMismatchOutputType"
  | constantMethod _ | constantProperty _ => "ErrorNonPureMethodCallOnConstant"
  | dataRace _ => "ErrorDataRace"
  | malformed _ => "ErrorParsing"
  | tooMuch limit => limit.kind
  | exited => "Exit"
  | inCall .. => "ErrorInFunctionCall"

/-- Whether nothing can catch a failure, and no call of a function of the script
wraps it. -/
def isFatal : Cause → Bool
  | malformed _ | tooMuch _ | exited => true
  | _ => false

/-- What a cause has to tell besides its message. -/
def details : Cause → Entries
  | noVariable name => [("variable", .string name)]
  | noFunction signature => [("function", .string signature)]
  | arrayBounds length index => [("index", .int index), ("length", .ofNat length)]
  | stringBounds length index => [("index", .int index), ("length", .ofNat length)]
  | bitBounds length index => [("index", .int index), ("length", .ofNat length)]
  | wrongType actual wanted | wrongOutput actual wanted =>
    [("actual", .string actual), ("requested", .string wanted)]
  | noProperty explanation => [("property", .string explanation)]
  | noIndexer types => [("type", .string types)]
  | noModule name => [("module", .string name)]
  | constantChanged name => [("variable", .string name)]
  | constantMethod name => [("function", .string name)]
  | constantProperty name => [("function", .string ("set$" ++ name))]
  | dataRace use => [("variable", .string use)]
  | inCall function .. => [("function", .string function), ("source", .string "")]
  | _ => []

end Cause

/-- A failure that a script may catch. -/
structure Failure where
  /-- The reason. -/
  cause : Cause
  /-- Where it shows. -/
  place : Option Place

namespace Failure

/-- The wording of a failure. -/
def message (f : Failure) : String :=
  Cause.placed f.cause.message f.place

/-- What a script catches: a thrown value as it is, also from inside calls. -/
def caught (f : Failure) : Value :=
  match f.cause.innermost with
  | .thrown value => value
  | _ =>
    let cause := f.cause
    let where_ : Entries :=
      match f.place with
      | some p => [("line", .ofNat p.line), ("position", .ofNat p.column)]
      | none => []
    let all := cause.details ++ where_ ++
      [("error", .string cause.kind), ("message", .string cause.message)]
    .map (all.foldl (fun entries entry => Entries.put entry.1 entry.2 entries) [])

/-- The failure, at a place if it had none. -/
def at_ (f : Failure) (p : Option Place) : Failure :=
  { f with place := f.place <|> p }

end Failure

/-- Why the evaluation of a part ends without a value for the part around it. -/
inductive Interrupt where
  /-- Something failed. -/
  | failed (failure : Failure)
  /-- A loop is left with a value. -/
  | leave (value : Value)
  /-- A loop goes on with its next round. -/
  | next
  /-- A function ends with a value. -/
  | return (value : Value)
  /-- The whole evaluation ends. -/
  | exit

/-- The interrupt, at a place if it had none. -/
def Interrupt.at_ (p : Option Place) : Interrupt → Interrupt
  | failed f => failed (f.at_ p)
  | i => i

end MazeRobot.Script
