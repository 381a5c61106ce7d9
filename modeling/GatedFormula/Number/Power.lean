/-
  Powers of the two bases that numbers are written to.
-/

namespace GatedFormula

/-- A power of two. -/
abbrev twoTo (n : Nat) : Nat := Nat.pow 2 n

/-- A power of ten. -/
abbrev tenTo (n : Nat) : Nat := Nat.pow 10 n

end GatedFormula
