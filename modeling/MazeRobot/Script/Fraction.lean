/-!
# Arithmetic on numbers with a fraction

The remainder of a division is exact, whatever the sizes of the two numbers.
Two numbers count as equal when they are very close for their size, and one counts
as less than another only when they are not that close. What is no number, or lies
beyond all numbers, compares with nothing.
-/

namespace MazeRobot.Script.Fraction

/-- The size of a number as a natural number times a power of two. -/
structure Binary where
  /-- The natural number. -/
  mantissa : Nat
  /-- The power of two. -/
  exponent : Int

/-- The size of a finite number. -/
def Binary.ofFloat (x : Float) : Binary :=
  let bits := x.toBits.toNat % Nat.pow 2 63
  let field := bits / Nat.pow 2 52
  let fraction := bits % Nat.pow 2 52
  if field = 0 then ⟨fraction, -1074⟩ else ⟨Nat.pow 2 52 + fraction, Int.ofNat field - 1075⟩

/-- The number of a size that the machine has. -/
def Binary.toFloat (b : Binary) : Float :=
  (Float.ofNat b.mantissa).scaleB b.exponent

/-- The remainder of two sizes, the second of which is not zero. -/
def Binary.remainder (a b : Binary) : Binary :=
  let low := min a.exponent b.exponent
  let whole (c : Binary) : Nat := c.mantissa * Nat.pow 2 (c.exponent - low).toNat
  ⟨whole a % whole b, low⟩

/-- The remainder of a division toward zero; it has the sign of `a`. -/
def remainder (a b : Float) : Float :=
  if a.isNaN || b.isNaN || a.isInf || b == 0.0 then 0.0 / 0.0
  else if b.isInf then a
  else
    let size := ((Binary.ofFloat a).remainder (Binary.ofFloat b)).toFloat
    if Nat.pow 2 63 ≤ a.toBits.toNat then -size else size

/-- How far apart equal numbers of size one may be. -/
def tolerance : Float := 2.220446049250313e-16

/-- The size by which the distance of two numbers is judged: that of the greater one,
and one if either is nothing. -/
def scale (a b : Float) : Float :=
  if a * b == 0.0 then 1.0 else if a.abs < b.abs then b.abs else a.abs

/-- A comparison of two numbers. -/
def compare? (symbol : String) (a b : Float) : Option Bool :=
  let distance := (a - b) / scale a b
  match symbol with
  | "==" => some (distance.abs ≤ tolerance)
  | "!=" => some (tolerance < distance.abs)
  | "<" => some (distance < -tolerance)
  | "<=" => some (distance ≤ tolerance)
  | ">" => some (tolerance < distance)
  | ">=" => some (-tolerance ≤ distance)
  | _ => none

/-- The lesser of two numbers; the second one if they cannot be compared. -/
def least (a b : Float) : Float :=
  if a ≤ b then a else b

/-- The greater of two numbers; the second one if they cannot be compared. -/
def greatest (a b : Float) : Float :=
  if b ≤ a then a else b

/-- A number without its fraction. -/
def whole (x : Float) : Float :=
  if x < 0.0 then x.ceil else x.floor

/-- The number of an integer. -/
def ofInt (n : Int64) : Float :=
  Float.ofInt n.toInt

/-- The bits of a number behind its sign and exponent. -/
def fractionBits (x : Float) : UInt64 := x.toBits &&& 0xFFFFFFFFFFFFF

/-- The exponent of a number, as it stands in its bits. -/
def exponentBits (x : Float) : Nat := ((x.toBits >>> 52) &&& 0x7FF).toNat

/-- One more than a number: a power of two times one more than a small number. -/
structure Reduced where
  /-- The power of two. -/
  exponent : Int
  /-- The small number. -/
  small : Float
  /-- What was lost when one was added, for its size. -/
  lost : Float

/-- One more than a number that is not small, above minus one. -/
def reduced (x : Float) : Reduced :=
  let sum := if x < 9007199254740992.0 then 1.0 + x else x
  let exponent := Int.ofNat (exponentBits sum) - 1023
  let lost :=
    if 9007199254740992.0 ≤ x then 0.0
    else (if 0 < exponent then 1.0 - (sum - x) else x - (sum - 1.0)) / sum
  let part (power : UInt64) := Float.ofBits (fractionBits sum ||| (power <<< 52)) - 1.0
  if fractionBits sum < 0x6A09E00000000 then ⟨exponent, part 0x3FF, lost⟩
  else ⟨exponent + 1, part 0x3FE, lost⟩

/-- The logarithm of a power of two times one more than a small number. The series is
one in the ratio of the small number to the sum of itself and two. -/
def Reduced.log (r : Reduced) : Float :=
  let f := r.small
  let power := Float.ofInt r.exponent
  let high := power * 6.93147180369123816490e-01
  let low := power * 1.90821492927058770002e-10 + r.lost
  let half := 0.5 * f * f
  if f == 0.0 then high + low
  else if f.abs < 9.5367431640625e-7 then
    let rest := half * (1.0 - 0.66666666666666666 * f)
    if r.exponent = 0 then f - rest else high - ((rest - low) - f)
  else
    let s := f / (2.0 + f)
    let z := s * s
    let z2 := z * z
    let z4 := z2 * z2
    let sum := z * 6.666666666666735130e-01 +
      z2 * (3.999999999940941908e-01 + z * 2.857142874366239149e-01) +
      z4 * (2.222219843214978396e-01 + z * 1.818357216161805012e-01) +
      z4 * z2 * (1.531383769920937332e-01 + z * 1.479819860510658591e-01)
    if r.exponent = 0 then f - (half - s * (half + sum))
    else high - ((half - (s * (half + sum) + low)) - f)

/-- The logarithm of one more than a number. -/
def logOnePlus (x : Float) : Float :=
  if x.isNaN || x < -1.0 then 0.0 / 0.0
  else if x == -1.0 then -1.0 / 0.0
  else if x.isInf then x
  else if x.abs < 5.551115123125783e-17 then x
  else if x.abs < 1.862645149230957e-9 then x - x * x * 0.5
  else if -0.2928932309150696 < x && x < 0.41421318054199219 then Reduced.log ⟨0, x, 0.0⟩
  else (reduced x).log

/-- The inverse of the hyperbolic tangent. -/
def atanh (x : Float) : Float :=
  0.5 * logOnePlus ((2.0 * x) / (1.0 - x))

/-- The length of the longest side of a triangle with a right angle between sides of
moderate lengths, of which the first one is not the shorter. -/
def longestSide (a b : Float) : Float :=
  let h := (a * a + b * b).sqrt
  let error :=
    if h ≤ 2.0 * b then
      let rest := h - b
      a * (2.0 * rest - a) + (rest - 2.0 * (a - b)) * rest
    else
      let rest := h - a
      2.0 * rest * (a - 2.0 * b) + ((4.0 * rest - b) * b + rest * rest)
  h - error / (2.0 * h)

/-- The length of the longest side of a triangle with a right angle. -/
def hypotenuse (x y : Float) : Float :=
  if x.isInf || y.isInf then 1.0 / 0.0
  else if x.isNaN || y.isNaN then 0.0 / 0.0
  else
    let (a, b) := if x.abs < y.abs then (y.abs, x.abs) else (x.abs, y.abs)
    if b ≤ a * 5.551115123125783e-17 then a + b
    else
      let power : Int := if 6.7e153 < a then 600 else if b < 1.7e-138 then -600 else 0
      (longestSide (a.scaleB (-power)) (b.scaleB (-power))).scaleB power

theorem Binary.remainder_exponent (a b : Binary) :
    (a.remainder b).exponent = min a.exponent b.exponent := rfl

end MazeRobot.Script.Fraction
