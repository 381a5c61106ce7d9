/-
  Doubles as exact numbers:
  - `Exact` is what a double denotes: no number, an infinity, or a sign and `significand * 2 ^ exponent`;
  - `Exact.of` reads a double, `Exact.toFloat` rounds an exact number to the nearest double;
  - `Number.truncated?` is the whole part, `Number.remainder` the remainder of the truncated quotient.

  Whole parts and remainders are computed on integers, so nothing is lost below or above the 53 bits.
-/
import GatedFormula.Number.Power

namespace GatedFormula

/-- What a double denotes. -/
inductive Exact where
  | nan
  | infinite (negative : Bool)
  /-- `± significand * 2 ^ exponent`; a zero keeps its sign. -/
  | finite (negative : Bool) (significand : Nat) (exponent : Int)
  deriving Repr, DecidableEq, Inhabited

namespace Exact

/-- `n / d` rounded to the nearest whole number, a half to the even one. -/
def roundedQuotient (n d : Nat) : Nat :=
  let q := n / d
  let twice := 2 * (n % d)
  if twice < d then q else if d < twice then q + 1 else q + q % 2

/-- Reads a double: one sign bit, eleven exponent bits, fifty-two fraction bits. -/
def of (x : Float) : Exact :=
  let bits := x.toBits.toNat
  let negative := decide (twoTo 63 ≤ bits)
  let biased : Nat := bits / twoTo 52 % 2048
  let fraction : Nat := bits % twoTo 52
  if biased = 2047 then
    if fraction = 0 then .infinite negative else .nan
  else if biased = 0 then .finite negative fraction (-1074)
  else .finite negative (twoTo 52 + fraction) ((biased : Int) - 1075)

/-- The bits of an infinity without its sign. -/
def infiniteBits : Nat := 2047 * twoTo 52

/-- The bits of the double nearest to `m * 2 ^ e`, ties to even, without its sign. A significand that
rounds up to `2 ^ 53` carries into the exponent field, which is the next double. -/
def magnitudeBits (m : Nat) (e : Int) : Nat :=
  if m = 0 then 0 else
    let top : Int := e + Nat.log2 m
    if 1024 ≤ top then infiniteBits else
      let unit : Int := max (top - 52) (-1074)
      let rounded :=
        if unit ≤ e then m * twoTo (e - unit).toNat else roundedQuotient m (twoTo (unit - e).toNat)
      min infiniteBits ((unit + 1074).toNat * twoTo 52 + rounded)

/-- The nearest double, ties to even. -/
def toFloat : Exact → Float
  | .nan => Float.ofBits 0x7ff8000000000000
  | .infinite negative => Float.ofBits (UInt64.ofNat (infiniteBits + if negative then twoTo 63 else 0))
  | .finite negative m e =>
    Float.ofBits (UInt64.ofNat (magnitudeBits m e + if negative then twoTo 63 else 0))

/-- The whole part of `m * 2 ^ e`. -/
def wholeMagnitude (m : Nat) (e : Int) : Nat :=
  if 0 ≤ e then m * twoTo e.toNat else m / twoTo (-e).toNat

/-- Has `m * 2 ^ e` no fraction? -/
def isWhole (m : Nat) (e : Int) : Bool := 0 ≤ e || m % twoTo (-e).toNat == 0

end Exact

namespace Number

/-- The whole part, rounded toward zero; none for infinities and for what is no number. -/
def truncated? (x : Float) : Option Int :=
  match Exact.of x with
  | .finite negative m e =>
    let whole := Exact.wholeMagnitude m e
    some (if negative then -(whole : Int) else whole)
  | _ => none

/-- The whole number at or next below `x`, as a double; a zero and an infinity stay. -/
def floored (x : Float) : Float :=
  match Exact.of x with
  | .finite negative m e =>
    let whole := Exact.wholeMagnitude m e
    if Exact.isWhole m e then x
    else Exact.toFloat (.finite negative (if negative then whole + 1 else whole) 0)
  | _ => x

/-- The whole number at or next above `x`; what rounds to zero from below is a negative zero. -/
def ceiled (x : Float) : Float :=
  match Exact.of x with
  | .finite negative m e =>
    let whole := Exact.wholeMagnitude m e
    if Exact.isWhole m e then x
    else Exact.toFloat (.finite negative (if negative then whole else whole + 1) 0)
  | _ => x

/-- The whole part as a double, with the sign of `x`. -/
def truncated (x : Float) : Float :=
  match Exact.of x with
  | .finite negative m e => Exact.toFloat (.finite negative (Exact.wholeMagnitude m e) 0)
  | _ => x

/-- The nearest number with a significand of 24 bits and the exponents of a single. -/
def toSingle (x : Float) : Float :=
  match Exact.of x with
  | .finite negative m e =>
    if m = 0 then x else
      let top : Int := e + Nat.log2 m
      let unit : Int := max (top - 23) (-149)
      if unit ≤ e then (if 128 ≤ top then Exact.toFloat (.infinite negative) else x) else
        let rounded := Exact.roundedQuotient m (twoTo (unit - e).toNat)
        if rounded * twoTo (unit + 149).toNat < twoTo (128 + 149) then
          Exact.toFloat (.finite negative rounded unit)
        else Exact.toFloat (.infinite negative)
  | _ => x

/-- The remainder of the truncated quotient `x / y`, exact, with the sign of `x`. -/
def remainder (x y : Float) : Float :=
  match Exact.of x, Exact.of y with
  | .finite negative m e, .finite _ n f =>
    if n = 0 then Exact.toFloat .nan else
      let unit := min e f
      Exact.toFloat (.finite negative ((m * twoTo (e - unit).toNat) % (n * twoTo (f - unit).toNat)) unit)
  | .finite .., .infinite _ => x
  | _, _ => Exact.toFloat .nan

/-- The largest whole number whose square is at most `n`, by Newton's steps from above. -/
def wholeRoot (n : Nat) : Nat :=
  if n = 0 then 0 else descend n (twoTo (Nat.log2 n / 2 + 1))
where
  /-- One more step as long as it goes down. -/
  descend (n x : Nat) : Nat :=
    let y := (x + n / x) / 2
    if y < x then descend n y else x
  termination_by x

/-- The length of the hypotenuse over two legs, correctly rounded: the root of the exact sum of
squares is taken to more bits than a double holds, the last of which says whether the root is cut. -/
def hypotenuse (x y : Float) : Float :=
  match Exact.of x, Exact.of y with
  | .infinite _, _ | _, .infinite _ => Exact.toFloat (.infinite false)
  | .nan, _ | _, .nan => Exact.toFloat .nan
  | .finite _ m e, .finite _ n f =>
    let unit := min e f
    let x := m * twoTo (e - unit).toNat
    let y := n * twoTo (f - unit).toNat
    let square := x * x + y * y
    let scaled := square * twoTo 128
    let root := wholeRoot scaled
    let sticky := if root * root = scaled then 0 else 1
    Exact.toFloat (.finite false (2 * root + sticky) (unit - 65))

end Number

end GatedFormula
