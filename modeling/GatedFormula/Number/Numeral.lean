/-
  Texts that denote numbers.
  - `Number.ofDigits?` reads a whole number in a radix, below `2 ^ 64`, with at most one plus sign in front.
  - `Number.ofDecimal?` reads decimal notation and rounds to the nearest double.
  - `Number.ofText` reads what people write: blanks around it, nothing at all for zero, a radix mark,
    an infinity by name or decimal notation; all else is no number.
-/
import GatedFormula.Number.Word
import GatedFormula.Text.Blank
import GatedFormula.Text.Digits

namespace GatedFormula.Number

/-- A whole number in a radix, below `2 ^ 64`. One plus sign may stand in front of the digits. -/
def ofDigits? (radix : Nat) (cs : List Char) : Option Nat :=
  let digits := match cs with
    | '+' :: rest => rest
    | _ => cs
  (Text.digits? radix digits).filter (· < twoTo 64)

/-- The nearest double to `± digits * 10 ^ power`. Powers far outside the range of doubles are settled
before any power of ten is computed. -/
def ofDecimal (negative : Bool) (digits : Nat) (power : Int) : Float :=
  let size : Int := (Nat.toDigits 10 digits).length + power
  if digits = 0 ∨ size < -330 then Exact.toFloat (.finite negative 0 0)
  else if 310 < size then Exact.toFloat (.infinite negative)
  else
    let num := if 0 ≤ power then digits * tenTo power.toNat else digits
    let den := if 0 ≤ power then 1 else tenTo (-power).toNat
    let shift := Nat.log2 den + 66 - Nat.log2 num
    let quotient := num * twoTo shift / den
    let sticky := if num * twoTo shift % den = 0 then 0 else 1
    Exact.toFloat (.finite negative (2 * quotient + sticky) (-(shift : Int) - 1))

/-- A sign, if one stands in front, and the rest. -/
def signed : List Char → Bool × List Char
  | '-' :: rest => (true, rest)
  | '+' :: rest => (false, rest)
  | cs => (false, cs)

/-- The exponent at the end of decimal notation; nothing there means zero. -/
def exponent? : List Char → Option Int
  | [] => some 0
  | c :: rest =>
    if c = 'e' ∨ c = 'E' then
      let (negative, digits) := signed rest
      (Text.digits? 10 digits).map fun n => if negative then -(n : Int) else n
    else none

/-- Decimal notation: a sign, digits with a point somewhere (at least one digit), an exponent; sign,
point and exponent may be missing. -/
def ofDecimal? (cs : List Char) : Option Float :=
  let (negative, body) := signed cs
  let whole := body.takeWhile Char.isDigit
  let rest := body.dropWhile Char.isDigit
  let (fraction, tail) := match rest with
    | '.' :: more => (more.takeWhile Char.isDigit, more.dropWhile Char.isDigit)
    | _ => ([], rest)
  match Text.digits? 10 (whole ++ fraction), exponent? tail with
  | some n, some power => some (ofDecimal negative n (power - fraction.length))
  | _, _ => none

/-- What is no number. -/
def nan : Float := Exact.toFloat .nan

/-- Positive infinity. -/
def infinity : Float := Exact.toFloat (.infinite false)

/-- Negative infinity. -/
def negativeInfinity : Float := Exact.toFloat (.infinite true)

/-- The radix that a mark in front of digits stands for, and the digits. -/
def radixMarked? : List Char → Option (Nat × List Char)
  | '0' :: c :: rest =>
    if c = 'x' ∨ c = 'X' then some (16, rest)
    else if c = 'o' ∨ c = 'O' then some (8, rest)
    else if c = 'b' ∨ c = 'B' then some (2, rest)
    else none
  | _ => none

/-- The number a text denotes; a text that denotes none gives the double that is no number. -/
def ofText (s : String) : Float :=
  let cs := Text.trim s.toList
  if cs = [] then 0
  else if cs = "Infinity".toList ∨ cs = "+Infinity".toList then infinity
  else if cs = "-Infinity".toList then negativeInfinity
  else match radixMarked? cs with
    | some (radix, digits) =>
      match ofDigits? radix digits with
      | some n => ofWhole n
      | none => nan
    | none => (ofDecimal? cs).getD nan

end GatedFormula.Number
