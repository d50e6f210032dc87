import MazeRobot.Script.Tree

/-!
# Descriptions of functions

What a script can learn about its own functions: their names, their parameters and who may
call them.
-/

namespace MazeRobot.Script

namespace Function

/-- A function as a map. -/
def description (f : Function) : Value :=
  let thisType : Entries :=
    match f.thisType with
    | some name => [("this_type", .string name)]
    | none => []
  .map ([("access", .string (if f.isPrivate then "private" else "public")),
    ("is_anonymous", .bool f.isClosure), ("name", .string f.name),
    ("params", .array (f.parameters.map Value.string).toArray)] ++ thisType)

end Function

namespace Program

/-- The functions of a script as maps, in the order of their definitions. -/
def descriptions (p : Program) (isWanted : Function → Bool) : Value :=
  .array ((p.functions.filter isWanted).map Function.description).toArray

/-- The descriptions that a call asks for: all of them, those of a name, or those of a name
and number of parameters. -/
def described? (p : Program) (name : String) (arguments : List Value) : Option Value :=
  match name, arguments with
  | "get_fn_metadata_list", [] => some (p.descriptions fun _ => true)
  | "get_fn_metadata_list", [.string wanted] => some (p.descriptions fun f => f.name == wanted)
  | "get_fn_metadata_list", [.string wanted, .int count] =>
    some (p.descriptions fun f =>
      f.name == wanted && (f.parameters.length : Int) == count.toInt)
  | _, _ => none

/-- A script without functions has nothing to tell. -/
theorem descriptions_nil (body : List Statement) (isWanted : Function → Bool) :
    descriptions ⟨[], body⟩ isWanted = .array #[] := rfl

end Program

end MazeRobot.Script
