/-!
# Numerals

Numbers read from texts, within bounds. The digits are taken from left to
right, and the first thing that is wrong counts: a character that is no digit,
or a digit that makes the number too large.
-/

namespace MazeRobot.Numeral

/-- Why a text is no number. -/
inductive Fault where
  /-- There is no text. -/
  | empty
  /-- There is something that is no digit, or no digit at all. -/
  | badDigit
  /-- The number is beyond the greatest one. -/
  | tooLarge
  /-- The number is below the least one. -/
  | tooSmall
  deriving DecidableEq, Repr

/-- The wording of a fault. -/
def Fault.message : Fault → String
  | empty => "cannot parse integer from empty string"
  | badDigit => "invalid digit found in string"
  | tooLarge => "number too large to fit in target type"
  | tooSmall => "number too small to fit in target type"

/-- The value of a digit, in any base up to 36. -/
def digit? (base : Nat) (c : Char) : Option Nat :=
  let value : Option Nat :=
    if '0' ≤ c ∧ c ≤ '9' then some (c.toNat - 48)
    else if 'a' ≤ c ∧ c ≤ 'z' then some (c.toNat - 87)
    else if 'A' ≤ c ∧ c ≤ 'Z' then some (c.toNat - 55)
    else none
  match value with
  | some d => if d < base then some d else none
  | none => none

/-- The number of digits behind a number, at most `limit`; `beyond` is the
fault of a greater one. -/
def digitsFrom (base limit : Nat) (beyond : Fault) : Nat → List Char → Except Fault Nat
  | n, [] => .ok n
  | n, c :: rest =>
    match digit? base c with
    | none => .error .badDigit
    | some d =>
      if limit < n * base + d then .error beyond
      else digitsFrom base limit beyond (n * base + d) rest

/-- The number of one or more digits. -/
def digits (base limit : Nat) (beyond : Fault) (cs : List Char) : Except Fault Nat :=
  if cs.isEmpty then .error .badDigit else digitsFrom base limit beyond 0 cs

/-- A natural number up to `limit`, possibly behind a plus. -/
def natural (limit : Nat) (cs : List Char) : Except Fault Nat :=
  match cs with
  | [] => .error .empty
  | '+' :: rest => digits 10 limit .tooLarge rest
  | cs => digits 10 limit .tooLarge cs

/-- An integer of 64 bits, possibly behind a sign. -/
def integer (base : Nat) (cs : List Char) : Except Fault Int64 :=
  let word (sign : Int) : Except Fault Nat → Except Fault Int64
    | .ok n => .ok (Int64.ofInt (sign * n))
    | .error f => .error f
  match cs with
  | [] => .error .empty
  | '-' :: rest => word (-1) (digits base 9223372036854775808 .tooSmall rest)
  | '+' :: rest => word 1 (digits base 9223372036854775807 .tooLarge rest)
  | cs => word 1 (digits base 9223372036854775807 .tooLarge cs)

/-- A number that was read does not exceed its limit. -/
theorem digitsFrom_le {base limit : Nat} {beyond : Fault} {n m : Nat} {cs : List Char}
    (hn : n ≤ limit) (h : digitsFrom base limit beyond n cs = .ok m) : m ≤ limit := by
  induction cs generalizing n with
  | nil => simp only [digitsFrom, Except.ok.injEq] at h; omega
  | cons c rest ih =>
    unfold digitsFrom at h
    split at h
    · cases h
    · split at h
      · cases h
      · exact ih (by omega) h

end MazeRobot.Numeral
