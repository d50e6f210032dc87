/-!
# Decimal numbers

Numbers with a fraction, read from digits and written with the fewest digits
that read back. Very large and very small ones are written with an exponent,
all others with at least one digit behind the point. The arithmetic on digits
is exact.
-/

namespace MazeRobot.Script.Decimal

/-- A decimal number: `digits` times ten to the power of `exponent`. -/
structure Scaled where
  /-- The digits as a number. -/
  digits : Nat
  /-- The power of ten. -/
  exponent : Int
  deriving DecidableEq, Repr

/-- The number that a list of digits denotes. -/
def natValue (cs : List Char) : Nat :=
  cs.foldl (fun n c => n * 10 + (c.toNat - 48)) 0

/-- The number of an exponent, with or without a sign. -/
def exponentValue : List Char → Int
  | '-' :: rest => -(natValue rest : Int)
  | '+' :: rest => natValue rest
  | rest => natValue rest

/-- Reads digits with at most one point and an exponent. -/
def Scaled.ofDigits (cs : List Char) : Scaled :=
  let (whole, rest) := cs.span Char.isDigit
  let (fraction, rest) :=
    match rest with
    | '.' :: rest => rest.span Char.isDigit
    | rest => ([], rest)
  let exponent :=
    match rest with
    | 'e' :: rest => exponentValue rest
    | _ => 0
  ⟨natValue (whole ++ fraction), exponent - fraction.length⟩

/-- The nearest number that the machine has. Far beyond its range the digits
do not count. -/
def Scaled.toFloat (s : Scaled) : Float :=
  if s.digits = 0 then 0.0
  else if 400 < s.exponent then Float.ofScientific 1 false 400
  else if 0 ≤ s.exponent then Float.ofScientific s.digits false s.exponent.toNat
  else if s.exponent < -400 - (Nat.toDigits 10 s.digits).length then 0.0
  else Float.ofScientific s.digits true (-s.exponent).toNat

/-- The number that the digits of a literal denote, possibly behind a minus. -/
def read (digits : String) : Float :=
  match digits.toList with
  | '-' :: rest => -(Scaled.ofDigits rest).toFloat
  | cs => (Scaled.ofDigits cs).toFloat

/-- A positive number between the middles to its neighbours, all as multiples
of `1 / scale`. -/
structure Interval where
  /-- The middle to the neighbour below. -/
  low : Nat
  /-- The number. -/
  value : Nat
  /-- The middle to the neighbour above. -/
  high : Nat
  /-- The common denominator. -/
  scale : Nat
  /-- Whether the middles round to the number as well. -/
  closed : Bool

/-- The interval of a number that is positive and finite. -/
def Interval.ofFloat (x : Float) : Interval :=
  let bits : Nat := x.toBits.toNat % Nat.pow 2 63
  let field : Nat := bits / Nat.pow 2 52
  let fraction : Nat := bits % Nat.pow 2 52
  let (mantissa, shift) : Nat × Int :=
    if field = 0 then (fraction, -1076) else (Nat.pow 2 52 + fraction, Int.ofNat field - 1077)
  let below := if fraction = 0 ∧ 1 < field then 1 else 2
  let (factor, scale) : Nat × Nat :=
    if 0 ≤ shift then (Nat.pow 2 shift.toNat, 1) else (1, Nat.pow 2 (-shift).toNat)
  ⟨(4 * mantissa - below) * factor, 4 * mantissa * factor, (4 * mantissa + 2) * factor, scale,
    mantissa % 2 = 0⟩

/-- The number of decimal digits. -/
def digitCount (n : Nat) : Nat :=
  (Nat.toDigits 10 n).length

/-- The least power of ten, up to `fuel`, that lifts `value / scale` to one. -/
def lift (value scale : Nat) : Nat → Nat → Nat
  | 0, power => power
  | fuel + 1, power =>
    if scale ≤ value * Nat.pow 10 power then power else lift value scale fuel (power + 1)

/-- The power of ten of the first digit. -/
def Interval.magnitude (i : Interval) : Int :=
  if i.scale ≤ i.value then Int.ofNat (digitCount (i.value / i.scale)) - 1
  else -Int.ofNat (lift i.value i.scale 400 1)

/-- The two multiples of a power of ten around the number: the one of them
that lies in the interval, and of two the nearer one. -/
def Interval.onGrid? (i : Interval) (power : Int) : Option Nat :=
  let (up, unit) : Nat × Nat :=
    if 0 ≤ power then (1, Nat.pow 10 power.toNat * i.scale)
    else (Nat.pow 10 (-power).toNat, i.scale)
  let value := i.value * up
  let below := value / unit
  let inside (d : Nat) : Bool :=
    let point := d * unit
    if i.closed then i.low * up ≤ point && point ≤ i.high * up
    else i.low * up < point && point < i.high * up
  match inside below, inside (below + 1) with
  | true, true =>
    if 2 * (value - below * unit) ≤ unit then some below else some (below + 1)
  | true, false => some below
  | false, true => some (below + 1)
  | false, false => none

/-- Tries grids from coarse to fine. -/
def Interval.search (i : Interval) : Nat → Int → Scaled
  | 0, power => ⟨0, power⟩
  | fuel + 1, power =>
    match i.onGrid? power with
    | some digits => ⟨digits, power⟩
    | none => i.search fuel (power - 1)

/-- The fewest digits that read back. -/
def shortest (x : Float) : Scaled :=
  let i := Interval.ofFloat x
  i.search 18 i.magnitude

/-- The digits without the zeros at their end. -/
def Scaled.trimmed (s : Scaled) : Nat → Scaled
  | 0 => s
  | fuel + 1 =>
    if s.digits % 10 = 0 ∧ s.digits ≠ 0 then
      Scaled.trimmed ⟨s.digits / 10, s.exponent + 1⟩ fuel
    else s

/-- Written without an exponent and without a needless point. -/
def Scaled.positional (s : Scaled) : List Char :=
  let digits := Nat.toDigits 10 s.digits
  if 0 ≤ s.exponent then digits ++ List.replicate s.exponent.toNat '0'
  else
    let places := (-s.exponent).toNat
    let padded := List.replicate (places + 1 - digits.length) '0' ++ digits
    padded.take (padded.length - places) ++ '.' :: padded.drop (padded.length - places)

/-- Written with one digit before the point and an exponent. -/
def Scaled.scientific (s : Scaled) : List Char :=
  let digits := Nat.toDigits 10 s.digits
  let power := s.exponent + (digits.length - 1 : Nat)
  let mantissa :=
    match digits with
    | [] => []
    | [d] => [d]
    | d :: more => d :: '.' :: more
  mantissa ++ 'e' :: (toString power).toList

/-- Written with at least one digit behind the point. -/
def Scaled.pointed (s : Scaled) : List Char :=
  if 0 ≤ s.exponent then s.positional ++ ['.', '0'] else s.positional

/-- How numbers are written. -/
structure Style where
  /-- Whether a positive size is written with an exponent. -/
  isExtreme : Float → Bool
  /-- Whether a number without a fraction has a point. -/
  pointed : Bool
  /-- Whether a zero keeps its sign. -/
  signedZero : Bool

/-- Numbers on their own: without an exponent over twenty-six powers of ten. The
bounds are the powers as single-precision numbers. -/
def Style.alone : Style where
  isExtreme x := 9999999827968.0 < x || x < 9.9999998245167e-14
  pointed := true
  signedZero := false

/-- Numbers inside arrays and maps. -/
def Style.nested : Style where
  isExtreme x := 1e16 ≤ x || x < 1e-4
  pointed := true
  signedZero := true

/-- Numbers in explanations: nothing but digits and a point if it is needed. -/
def Style.plain : Style where
  isExtreme _ := false
  pointed := false
  signedZero := true

/-- Whether a number is negative or the negative zero. -/
def isNegative (x : Float) : Bool :=
  Nat.pow 2 63 ≤ x.toBits.toNat

/-- The text of a number. -/
def textWith (style : Style) (x : Float) : String :=
  if x.isNaN then "NaN"
  else
    let size := x.abs
    let sign := if isNegative x && (size != 0.0 || style.signedZero) then "-" else ""
    if size.isInf then sign ++ "inf"
    else
      let s := if size == 0.0 then ⟨0, 0⟩ else (shortest size).trimmed 400
      let body :=
        if size != 0.0 && style.isExtreme size then s.scientific
        else if style.pointed then s.pointed
        else s.positional
      sign ++ String.ofList body

/-- The text of a number on its own. -/
def text (x : Float) : String := textWith .alone x

end MazeRobot.Script.Decimal
