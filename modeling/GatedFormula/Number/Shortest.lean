/-
  The fewest decimal digits that read back as a given double:
  - `Decimal` is `digits * 10 ^ power`;
  - `Interval` holds what rounds to a double, scaled to whole numbers;
  - `Decimal.shortest` tries the grids of one digit, two digits, … seventeen digits and takes the
    first that has a point in the interval, of two points the nearer one and on a tie the upper one.
-/
import GatedFormula.Number.Exact

namespace GatedFormula

/-- The number `digits * 10 ^ power`. -/
structure Decimal where
  digits : Nat
  power : Int
  deriving Repr, DecidableEq, Inhabited

namespace Decimal

/-- A positive double and the numbers that round to it, all in units of `1 / scale`. -/
structure Interval where
  low : Nat
  value : Nat
  high : Nat
  scale : Nat
  /-- Do the two ends still round to the double? They do when its significand is even. -/
  closed : Bool

/-- The interval around `m * 2 ^ e`. Its lower half is shorter where the spacing of doubles changes. -/
def Interval.around (m : Nat) (e : Int) : Interval :=
  let narrow := m = twoTo 52 ∧ -1074 < e
  let grow := twoTo (e - 2).toNat
  { low := (4 * m - if narrow then 1 else 2) * grow
    value := 4 * m * grow
    high := (4 * m + 2) * grow
    scale := twoTo (2 - e).toNat
    closed := m % 2 == 0 }

/-- Lies `n / d` in the interval? -/
def Interval.holds (i : Interval) (n d : Nat) : Bool :=
  let point := n * i.scale
  if i.closed then i.low * d ≤ point && point ≤ i.high * d
  else i.low * d < point && point < i.high * d

/-- The number `n / d` times a power of ten, again as a quotient. -/
def scaledByTen (n d : Nat) (power : Int) : Nat × Nat :=
  if 0 ≤ power then (n * tenTo power.toNat, d) else (n, d * tenTo (-power).toNat)

/-- The power of the first decimal digit of `n / d`, guessed from the binary lengths and mended. -/
def leadingPower (n d : Nat) : Int :=
  let guess : Int := ((Nat.log2 n : Int) - Nat.log2 d) * 30103 / 100000
  let reaches (k : Int) : Bool :=
    let (one, ten) := scaledByTen 1 1 k
    one * d ≤ n * ten
  if reaches (guess + 1) then guess + 1 else if reaches guess then guess else guess - 1

/-- The grid point next to the value that still reads back, of the grid `10 ^ power`. -/
def onGrid? (i : Interval) (power : Int) : Option Nat :=
  let (num, den) := scaledByTen i.value i.scale (-power)
  let below := num / den
  let rest := num % den
  let holds (k : Nat) : Bool :=
    let (n, d) := scaledByTen k 1 power
    i.holds n d
  let upperNearer := den ≤ 2 * rest
  match holds below, holds (below + 1) with
  | true, true => some (if upperNearer then below + 1 else below)
  | true, false => some below
  | false, true => some (below + 1)
  | false, false => none

/-- The same number without trailing zeros in its digits. -/
def trimmed (digits : Nat) (power : Int) : Decimal :=
  if h : digits ≠ 0 ∧ digits % 10 = 0 then trimmed (digits / 10) (power + 1) else ⟨digits, power⟩
termination_by digits
decreasing_by omega

/-- The decimal with the fewest digits that reads back as `m * 2 ^ e`, for `m` positive. -/
def shortest (m : Nat) (e : Int) : Decimal :=
  let i := Interval.around m e
  let lead := leadingPower i.value i.scale
  let found := (List.range 17).findSome? fun (extra : Nat) =>
    let power := lead - extra
    (onGrid? i power).map (trimmed · power)
  found.getD ⟨m, e⟩

/-- The number of decimal digits. -/
def length (d : Decimal) : Nat := (Nat.toDigits 10 d.digits).length

/-- The power of ten of the first digit. -/
def lead (d : Decimal) : Int := d.length - 1 + d.power

end Decimal

end GatedFormula
