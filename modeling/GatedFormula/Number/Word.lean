/-
  Words of 32 bits.
  `Number.word` keeps the whole part of a double modulo `2 ^ 32`, and a word reads back as a number in
  two ways: without a sign, or as the representative from `-2 ^ 31` up to `2 ^ 31 - 1`.
-/
import GatedFormula.Number.Exact

namespace GatedFormula.Number

/-- The whole part modulo `2 ^ 32`; what has no whole part counts as zero. -/
def word (x : Float) : BitVec 32 :=
  match truncated? x with
  | some n => BitVec.ofInt 32 n
  | none => 0

/-- A whole number as the nearest double. -/
def ofWhole (n : Int) : Float := Exact.toFloat (.finite (decide (n < 0)) n.natAbs 0)

/-- The number of a word read with a sign. -/
def ofSigned (w : BitVec 32) : Float := ofWhole w.toInt

/-- The number of a word read without a sign. -/
def ofUnsigned (w : BitVec 32) : Float := ofWhole w.toNat

/-- A shift goes by the low five bits of its count. -/
def shiftCount (x : Float) : Nat := (word x).toNat % 32

/-- The count of zero bits above the highest set bit. -/
def leadingZeros (w : BitVec 32) : Nat := if w = 0 then 32 else 31 - Nat.log2 w.toNat

end GatedFormula.Number
