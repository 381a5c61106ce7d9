/-
  Digits of a radix up to sixteen, in either case, and the whole numbers that runs of them denote.
-/

namespace GatedFormula.Text

/-- The value of a digit in a radix. -/
def digit? (radix : Nat) (c : Char) : Option Nat :=
  let value :=
    if '0' ≤ c ∧ c ≤ '9' then c.toNat - 48
    else if 'a' ≤ c ∧ c ≤ 'f' then c.toNat - 87
    else if 'A' ≤ c ∧ c ≤ 'F' then c.toNat - 55
    else 16
  if value < radix then some value else none

/-- The number that one or more digits denote; none for an empty run and for other characters. -/
def digits? (radix : Nat) : List Char → Option Nat
  | [] => none
  | cs => cs.foldlM (fun n c => (digit? radix c).map (n * radix + ·)) 0

end GatedFormula.Text
