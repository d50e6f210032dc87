import MazeRobot.Script.Library.Basic
import MazeRobot.Script.Value.Shown

/-!
# Maps

Functions on maps that call no other function.
-/

namespace MazeRobot.Script.Library

/-- A map with those entries of another one that it lacks. -/
def filledWith (a b : Entries) : Entries :=
  b.foldl (fun all entry =>
    if (Entries.find all entry.1).isSome then all else Entries.put entry.1 entry.2 all) a

/-- Functions on maps. -/
def maps (name : String) (arguments : List Value) : Option NativeResult :=
  let ok (v : Value) : Option NativeResult := some (Native.pure v)
  let set (m : Entries) : Option NativeResult := some (Native.change (.map m))
  match name, arguments with
  | "len", [.map m] => ok (.ofNat m.length)
  | "is_empty", [.map m] => ok (.bool m.isEmpty)
  | "contains", [.map m, .string s] => ok (.bool (Entries.find m s).isSome)
  | "keys", [.map m] => ok (.array (m.map fun entry => Value.string entry.1).toArray)
  | "values", [.map m] => ok (.array (m.map (·.2)).toArray)
  | "get", [.map m, .string s] => ok ((Entries.find m s).getD .unit)
  | "to_json", [.map m] => ok (.string (String.ofList (Value.map m).interchange))
  | "clear", [.map _] => set []
  | "set", [.map m, .string s, v] => set (Entries.put s v m)
  | "remove", [.map m, .string s] =>
    match Entries.find m s with
    | some v => some (Native.take v (.map (Entries.erase s m)))
    | none => some (Native.pure .unit)
  | "mixin", [.map m, .map n] => set (Entries.merge m n)
  | "fill_with", [.map m, .map n] => set (filledWith m n)
  | _, _ => none

end MazeRobot.Script.Library
