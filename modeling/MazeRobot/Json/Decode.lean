import MazeRobot.Json.Scan

/-!
# Decoders

A decoder takes a scanned tree to a value of the domain or to the first fault
it meets on its way. Records may be written as objects, in any order and with
unknown members, or as arrays of their fields in declaration order. Words of a
closed list may be written as a text or as an object whose only member is
named by the word and holds null.
-/

namespace MazeRobot

/-- Takes a tree to a value or to the first fault. -/
abbrev Decoder (α : Type) := Scan → Except Fault α

namespace Decoder

/-- The fault of a value of the wrong type: a value that is broken itself is
reported as such. -/
def mismatch : Scan → Fault
  | .broken b => b.strict
  | .text (.error f) => f
  | .number .huge => .malformed
  | _ => .mismatched

/-- A truth value. -/
def bool : Decoder Bool
  | .bool b => .ok b
  | s => .error (mismatch s)

/-- An integer from `low` to `high`. -/
def intBetween (low high : Int) : Decoder Int
  | .number (.whole n) => if low ≤ n ∧ n ≤ high then .ok n else .error .mismatched
  | s => .error (mismatch s)

/-- A word of eight bits. -/
def uint8 : Decoder UInt8 := fun s =>
  match intBetween 0 255 s with
  | .ok n => .ok (UInt8.ofNat n.toNat)
  | .error f => .error f

/-- A word of 32 bits. -/
def uint32 : Decoder UInt32 := fun s =>
  match intBetween 0 4294967295 s with
  | .ok n => .ok (UInt32.ofNat n.toNat)
  | .error f => .error f

/-- A word of 64 bits. -/
def uint64 : Decoder UInt64 := fun s =>
  match intBetween 0 18446744073709551615 s with
  | .ok n => .ok (UInt64.ofNat n.toNat)
  | .error f => .error f

/-- A signed word of 32 bits. -/
def int32 : Decoder Int32 := fun s =>
  match intBetween (-2147483648) 2147483647 s with
  | .ok n => .ok (Int32.ofInt n)
  | .error f => .error f

/-- A text. -/
def string : Decoder String
  | .text (.ok s) => .ok s
  | s => .error (mismatch s)

/-- A value that may be absent. -/
def nullable {α : Type} (decode : Decoder α) : Decoder (Option α)
  | .null => .ok none
  | s =>
    match decode s with
    | .ok a => .ok (some a)
    | .error f => .error f

/-- The items of a list, one after the other. -/
def items {α : Type} (decode : Decoder α) : List Scan → Except Fault (List α)
  | [] => .ok []
  | s :: rest =>
    match decode s with
    | .error f => .error f
    | .ok a =>
      match items decode rest with
      | .error f => .error f
      | .ok as => .ok (a :: as)

/-- An array of values. -/
def list {α : Type} (decode : Decoder α) : Decoder (List α)
  | .array scans tail =>
    match items decode scans with
    | .error f => .error f
    | .ok as =>
      match tail with
      | some b => .error b.strict
      | none => .ok as
  | s => .error (mismatch s)

/-- A word of a closed list. Anything but a text and an object cannot even
begin to name one. -/
def word {α : Type} (ofWord? : String → Option α) : Decoder α
  | .text (.ok s) =>
    match ofWord? s with
    | some a => .ok a
    | none => .error .mismatched
  | .text (.error f) => .error f
  | .object [] (some b) => .error b.strict
  | .object [] none => .error .malformed
  | .object ((.error f, _) :: _) _ => .error f
  | .object ((.ok name, held) :: rest) tail =>
    match ofWord? name with
    | none => .error .mismatched
    | some a =>
      match held with
      | .null =>
        match rest, tail with
        | [], none => .ok a
        | [], some b => .error b.closing
        | _ :: _, _ => .error .malformed
      | s => .error (mismatch s)
  | .broken b => .error b.strict
  | _ => .error .malformed

/-- A field of a record under construction: `put` decodes its value into the
draft, `isSet` tells whether the draft has it already. -/
structure Field (σ : Type) where
  /-- The name of the field. -/
  name : String
  /-- Whether the draft holds the field. -/
  isSet : σ → Bool
  /-- Decodes the field into the draft. -/
  put : σ → Scan → Except Fault σ

/-- A field that a draft holds as an optional value. -/
def field {σ α : Type} (name : String) (get : σ → Option α) (set : σ → α → σ)
    (decode : Decoder α) : Field σ where
  name := name
  isSet draft := (get draft).isSome
  put draft s :=
    match decode s with
    | .ok a => .ok (set draft a)
    | .error f => .error f

/-- A value that nobody wants: it only has to be JSON for a lax reader. -/
def skip : Scan → Except Fault Unit
  | .array _ (some b) => .error b.lax
  | .object _ (some b) => .error b.lax
  | .broken b => .error b.lax
  | _ => .ok ()

/-- Reads the members of an object into a draft. A field that is there twice
is refused before its second value is read; unknown members are skipped. -/
def members {σ : Type} (fields : List (Field σ)) :
    List (Except Fault String × Scan) → σ → Except Fault σ
  | [], draft => .ok draft
  | (.error f, _) :: _, _ => .error f
  | (.ok name, s) :: rest, draft =>
    match fields.find? (·.name == name) with
    | some field =>
      if field.isSet draft then .error .mismatched
      else
        match field.put draft s with
        | .error f => .error f
        | .ok draft => members fields rest draft
    | none =>
      match skip s with
      | .error f => .error f
      | .ok () => members fields rest draft

/-- Reads the items of an array into a draft, in declaration order, and gives
the items that no field is left for. -/
def positional {σ : Type} : List (Field σ) → List Scan → σ → Except Fault (σ × List Scan)
  | [], rest, draft => .ok (draft, rest)
  | _ :: _, [], draft => .ok (draft, [])
  | field :: fields, s :: rest, draft =>
    match field.put draft s with
    | .error f => .error f
    | .ok draft => positional fields rest draft

/-- A record: its fields are read into the empty draft, and `finish` makes the
value of a draft or misses a field. -/
def record {σ α : Type} (fields : List (Field σ)) (empty : σ) (finish : σ → Option α) :
    Decoder α
  | .object named tail =>
    match members fields named empty with
    | .error f => .error f
    | .ok draft =>
      match tail with
      | some b => .error b.strict
      | none =>
        match finish draft with
        | some a => .ok a
        | none => .error .mismatched
  | .array scans tail =>
    match positional fields scans empty with
    | .error f => .error f
    | .ok (draft, extra) =>
      match extra, tail with
      | _ :: _, _ =>
        match finish draft with
        | some _ => .error .malformed
        | none => .error .mismatched
      | [], some b => .error b.strict
      | [], none =>
        match finish draft with
        | some a => .ok a
        | none => .error .mismatched
  | s => .error (mismatch s)

/-- Decodes a whole text: one value, and nothing but blanks behind it. -/
def text {α : Type} (decode : Decoder α) (text : String) : Except Fault α :=
  let (s, rest) := Scan.ofText text
  match decode s with
  | .error f => .error f
  | .ok a =>
    match Scan.skipBlanks rest with
    | [] => .ok a
    | _ :: _ => .error .malformed

end Decoder

namespace Fault

/-- The short name of a fault. -/
def category : Fault → String
  | malformed => "syntax"
  | mismatched => "data"
  | truncated => "eof"

end Fault

end MazeRobot
