/-
  The text of a number.
  - A whole number below `10 ^ 21` is written with all its digits.
  - Another number from `10 ^ -6` up to `10 ^ 21` is written with a point and the fewest digits that read
    back.
  - All others have one digit before the point and a signed exponent, as in `1e+21` and `1.5e-7`.
  Both zeros are written `0`.
-/
import GatedFormula.Number.Shortest

namespace GatedFormula.Number

/-- The least power of a first digit that is written with an exponent. -/
def exponentFrom : Int := 21

/-- The least power of a first digit that is written without one. -/
def pointFrom : Int := -6

/-- The digits with the point after the first one, then the power of the first digit. -/
def scientific (d : Decimal) : String :=
  let point :=
    match Nat.toDigits 10 d.digits with
    | [] => ""
    | [c] => String.ofList [c]
    | c :: rest => String.ofList (c :: '.' :: rest)
  let power := if 0 ≤ d.lead then "+" ++ toString d.lead else toString d.lead
  point ++ "e" ++ power

/-- The digits with the point where it stands, zeros filled in. -/
def positional (d : Decimal) : String :=
  let digits := Nat.toDigits 10 d.digits
  if 0 ≤ d.power then String.ofList (digits ++ List.replicate d.power.toNat '0')
  else
    let places := (-d.power).toNat
    let padded := List.replicate (places + 1 - digits.length) '0' ++ digits
    String.ofList (padded.take (padded.length - places) ++ '.' :: padded.drop (padded.length - places))

/-- The text of `m * 2 ^ e` without its sign. -/
def magnitudeText (m : Nat) (e : Int) : String :=
  if m = 0 then "0" else
    let d := Decimal.shortest m e
    if exponentFrom ≤ d.lead ∨ d.lead < pointFrom then scientific d
    else if Exact.isWhole m e then toString (Exact.wholeMagnitude m e)
    else positional d

/-- The text of a number. -/
def text (x : Float) : String :=
  match Exact.of x with
  | .nan => "NaN"
  | .infinite negative => if negative then "-Infinity" else "Infinity"
  | .finite negative m e =>
    if m = 0 then "0" else if negative then "-" ++ magnitudeText m e else magnitudeText m e

end GatedFormula.Number
