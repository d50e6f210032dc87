import MazeRobot.Json.Decode

/-!
# Tagged values

A tagged value is an object with a member that tells what the others mean, or
an array whose first item does. The tag may stand anywhere in the object, so
what comes with it is kept until the whole has been read: it has to be sound
JSON throughout, and it may not nest deeper than a reader that keeps it can
follow. What was kept is then read by rules that are a little laxer.
-/

namespace MazeRobot

namespace Decoder

mutual

/-- Checks a value that is to be kept for later; `depth` arrays and objects
may nest in it. -/
def keep : Nat → Scan → Except Fault Unit
  | _, .broken b => .error b.strict
  | _, .text (.error f) => .error f
  | _, .number .huge => .error .malformed
  | depth, .array scans tail =>
    match depth with
    | 0 => .error .malformed
    | depth + 1 => keepItems depth tail scans
  | depth, .object named tail =>
    match depth with
    | 0 => .error .malformed
    | depth + 1 => keepMembers depth tail named
  | _, _ => .ok ()

/-- Checks items that are to be kept, and how their list ends. -/
def keepItems (depth : Nat) (tail : Option Break) : List Scan → Except Fault Unit
  | [] =>
    match tail with
    | some b => .error b.strict
    | none => .ok ()
  | s :: rest =>
    match keep depth s with
    | .error f => .error f
    | .ok () => keepItems depth tail rest

/-- Checks members that are to be kept, and how their list ends. -/
def keepMembers (depth : Nat) (tail : Option Break) :
    List (Except Fault String × Scan) → Except Fault Unit
  | [] =>
    match tail with
    | some b => .error b.strict
    | none => .ok ()
  | (.error f, _) :: _ => .error f
  | (.ok _, s) :: rest =>
    match keep depth s with
    | .error f => .error f
    | .ok () => keepMembers depth tail rest

end

/-- A word of a closed list in a value that was kept: a text, or an object
whose only member has the word as its name and holds nothing. -/
def keptWord {α : Type} (ofWord? : String → Option α) : Decoder α
  | .text (.ok s) =>
    match ofWord? s with
    | some a => .ok a
    | none => .error .mismatched
  | .object [(.ok name, held)] none =>
    match ofWord? name, held with
    | some a, .null => .ok a
    | some a, .object [] none => .ok a
    | _, _ => .error .mismatched
  | _ => .error .mismatched

/-- A value that was kept under a tag: the other members of its object, or
the further items of its array. -/
inductive Kept where
  /-- Named values. -/
  | members (named : List (String × Scan))
  /-- Values in order. -/
  | items (scans : List Scan)

/-- The only field of what was kept. Other members do not matter; other items
do. -/
def Kept.only {α : Type} (name : String) (decode : Decoder α) : Kept → Except Fault α
  | .members named =>
    match named.filter (·.1 == name) with
    | [(_, s)] => decode s
    | _ => .error .mismatched
  | .items [s] => decode s
  | .items _ => .error .mismatched

/-- Reads the members of a tagged object: the tag, once it is met, and the
others in order. -/
def taggedMembers {τ : Type} (tagName : String) (tag : Decoder τ) (depth : Nat)
    (tail : Option Break) :
    List (Except Fault String × Scan) → Option τ → List (String × Scan) →
      Except Fault (τ × Kept)
  | [], found, others =>
    match tail, found with
    | some b, _ => .error b.strict
    | none, some t => .ok (t, .members others.reverse)
    | none, none => .error .mismatched
  | (.error f, _) :: _, _, _ => .error f
  | (.ok name, s) :: rest, found, others =>
    if name = tagName then
      match found with
      | some _ => .error .mismatched
      | none =>
        match tag s with
        | .error f => .error f
        | .ok t => taggedMembers tagName tag depth tail rest (some t) others
    else
      match keep depth s with
      | .error f => .error f
      | .ok () => taggedMembers tagName tag depth tail rest found ((name, s) :: others)

/-- Reads a tagged value: an object with the tag among its members, or an
array with the tag as its first item. -/
def tagged {τ : Type} (tagName : String) (tag : Decoder τ) (depth : Nat) :
    Scan → Except Fault (τ × Kept)
  | .object named tail => taggedMembers tagName tag depth tail named none []
  | .array (first :: rest) tail =>
    match tag first with
    | .error f => .error f
    | .ok t =>
      match keepItems depth tail rest with
      | .error f => .error f
      | .ok () => .ok (t, .items rest)
  | .array [] (some b) => .error b.strict
  | .array [] none => .error .mismatched
  | s => .error (mismatch s)

/-- A text that names one of a closed list, and nothing else. -/
def tagWord {α : Type} (ofWord? : String → Option α) : Decoder α := fun s =>
  match string s with
  | .error f => .error f
  | .ok name =>
    match ofWord? name with
    | some a => .ok a
    | none => .error .mismatched

end Decoder

end MazeRobot
