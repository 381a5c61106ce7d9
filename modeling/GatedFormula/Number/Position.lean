/-
  Whole positions in a text, counted in characters. A number gives the position of its whole part, and
  an infinity one that no text reaches.
-/
import GatedFormula.Number.Numeral

namespace GatedFormula

/-- A whole position, possibly before or beyond every text. -/
inductive Position where
  | before
  | index (i : Int)
  | beyond
  deriving Repr, DecidableEq, Inhabited

namespace Position

/-- The whole part of a number; what is no number counts as zero. -/
def ofNumber (x : Float) : Position :=
  match Exact.of x with
  | .nan => .index 0
  | .infinite negative => if negative then .before else .beyond
  | .finite .. => .index ((Number.truncated? x).getD 0)

/-- The number of a position. -/
def toNumber : Position → Float
  | .before => Number.negativeInfinity
  | .index i => Number.ofWhole i
  | .beyond => Number.infinity

/-- The nearest of the positions `0` to `length`. -/
def clamped (length : Nat) : Position → Nat
  | .before => 0
  | .index i => min i.toNat length
  | .beyond => length

/-- A negative position counts from the end; the result is the nearest of the positions `0` to `length`. -/
def relative (length : Nat) : Position → Nat
  | .before => 0
  | .index i => if i < 0 then (length + i).toNat else min i.toNat length
  | .beyond => length

end Position

end GatedFormula
