/-
  Nodes of a formula and the places where they stand.
  - `Formula.children` lists the parts of a node by their child numbers.
  - `Formula.HasNode` says which node stands at a place; there is one at most (`HasNode.unique`).
-/
import GatedFormula.Formula.Basic

namespace GatedFormula

/-- The place that a path of child numbers, the innermost first, leads to. -/
def Place.below (p : Place) (path : List Nat) : Place := ⟨path ++ p.path⟩

theorem Place.below_injective {p : Place} {path path' : List Nat} (h : p.below path = p.below path') :
    path = path' :=
  List.append_cancel_right (congrArg Place.path h)

namespace Formula

/-- The parts of a formula, by child numbers. -/
def children : Formula → List Formula
  | .array parts | .sequence parts => parts
  | .binary _ l r | .logical _ l r => [l, r]
  | .call callee arguments => callee :: arguments
  | .conditional t c a => [t, c, a]
  | .member object property _ => [object, property]
  | .unary _ a _ => [a]
  | .name _ | .literal .. | .self => []

/-- The part of a formula that a path leads to. -/
def at? (f : Formula) : (path : List Nat) → Option Formula
  | [] => some f
  | i :: path => (f.at? path).bind fun g => g.children[i]?

theorem at?_concat (f : Formula) (path : List Nat) (i : Nat) :
    f.at? (path ++ [i]) = f.children[i]?.bind fun g => g.at? path := by
  induction path with
  | nil => simp [at?]
  | cons j path ih => rw [List.cons_append, at?, ih, Option.bind_assoc]; rfl

/-- The node `g` stands at the place `p` in the formula `f`, which stands at `origin` itself. -/
def HasNode (f : Formula) (origin : Place) (g : Formula) (p : Place) : Prop :=
  ∃ path, f.at? path = some g ∧ p = origin.below path

namespace HasNode

variable {f g g' : Formula} {origin p : Place}

theorem root (f : Formula) (origin : Place) : f.HasNode origin f origin := ⟨[], rfl, rfl⟩

theorem child {i : Nat} (h : f.HasNode origin g p) (hc : g.children[i]? = some g') :
    f.HasNode origin g' (p.child i) := by
  obtain ⟨path, hg, rfl⟩ := h
  exact ⟨i :: path, by rw [at?, hg, Option.bind_some, hc], rfl⟩

/-- At a place stands one node at most. -/
theorem unique (h : f.HasNode origin g p) (h' : f.HasNode origin g' p) : g = g' := by
  obtain ⟨path, hg, rfl⟩ := h
  obtain ⟨path', hg', hp⟩ := h'
  obtain rfl := Place.below_injective hp
  exact Option.some.inj (hg.symm.trans hg')

end HasNode

end Formula

end GatedFormula
