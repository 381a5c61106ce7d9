/-
  Functions of numbers: rounding, powers, logarithms, and the functions over a list of numbers.
  A list function meets its members from the left, and one member that is no number makes the whole
  result no number.
-/
import GatedFormula.Number.Numeral

namespace GatedFormula.Number

/-- The nearest whole number, a half to the upper one. -/
def rounded (x : Float) : Float :=
  let lower := floored x
  if x - lower ≥ 0.5 then lower + 1 else lower

/-- Minus one, zero or one; a zero keeps its sign. -/
def sign (x : Float) : Float :=
  if x.isNaN || x == 0 then x else if x < 0 then -1 else 1

/-- The magnitude of `x` with the sign of `y`. -/
def withSignOf (x y : Float) : Float :=
  match Exact.of y with
  | .finite negative .. | .infinite negative => if negative then -x.abs else x.abs
  | .nan => x

/-- `ln (1 + x)`, accurate near zero: the rounding of `1 + x` is divided out again. -/
def lnOnePlus (x : Float) : Float :=
  let u := 1 + x
  if u == 1 then x else if x == infinity then x else Float.log u * (x / (u - 1))

/-- `e ^ x - 1`, accurate near zero: the rounding of `e ^ x` is divided out again. -/
def expMinusOne (x : Float) : Float :=
  let u := Float.exp x
  if u == 1 then x
  else if u - 1 == -1 then -1
  else if u == infinity then u
  else (u - 1) * (x / Float.log u)

/-- The inverse hyperbolic sine. -/
def arsinh (x : Float) : Float :=
  let size := x.abs
  let inverse := 1 / size
  withSignOf (lnOnePlus (size + size / (hypotenuse 1 inverse + inverse))) x

/-- The inverse hyperbolic cosine. -/
def arcosh (x : Float) : Float :=
  if x < 1 then nan else Float.log (x + Float.sqrt (x - 1) * Float.sqrt (x + 1))

/-- The inverse hyperbolic tangent. -/
def artanh (x : Float) : Float := 0.5 * lnOnePlus (2 * x / (1 - x))

/-- A power. One to an infinite power, and anything to a power that is no number, is no number. -/
def power (base exponent : Float) : Float :=
  if exponent.isNaN || (base.abs == 1 && exponent.isInf) then nan else Float.pow base exponent

/-- The product of two words, read with a sign. -/
def wordProduct (x y : Float) : Float := ofSigned (word x * word y)

/-- The larger of two numbers, the left one if they are equal. -/
def larger (x y : Float) : Float :=
  if x.isNaN || y.isNaN then nan else if x < y then y else x

/-- The smaller of two numbers, the left one if they are equal. -/
def smaller (x y : Float) : Float :=
  if x.isNaN || y.isNaN then nan else if y < x then y else x

/-- The largest member; nothing is below negative infinity. -/
def greatest (xs : List Float) : Float := xs.foldl larger (negativeInfinity)

/-- The smallest member. -/
def least (xs : List Float) : Float := xs.foldl smaller infinity

/-- The sum from the left. It starts at negative zero, which adding leaves every number as it is. -/
def total (xs : List Float) : Float := xs.foldl (· + ·) (-0.0)

/-- The sum divided by the number of members. -/
def average (xs : List Float) : Float := total xs / ofWhole xs.length

/-- The length of the diagonal over all members; one infinite member makes it infinite. -/
def diagonal (xs : List Float) : Float :=
  if xs.any Float.isInf then infinity else xs.foldl hypotenuse 0

end GatedFormula.Number
