/-
  Places: where in a formula, or in a piece of given data, something stands.
  A place is a path of child numbers, written from the inside out. The nodes of a formula are told apart by
  their places, and what is made during an evaluation takes the place where it is made as its identity: a
  node is evaluated at most once, so two things made have two places.
-/

namespace GatedFormula

/-- A path of child numbers, the innermost first. -/
structure Place where
  path : List Nat
  deriving Repr, DecidableEq, Inhabited, Hashable

namespace Place

/-- A place that is no child of another; different numbers give places apart. -/
def root (n : Nat) : Place := ⟨[n]⟩

/-- The place of a child. -/
def child (p : Place) (n : Nat) : Place := ⟨n :: p.path⟩

end Place

end GatedFormula
