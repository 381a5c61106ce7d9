/-
  Sets of characters as ascending runs of code points.
  Membership looks for the run of a code point, and the operations go through `ofRuns`, which sorts runs
  and joins those that touch. A table of a character property is written as a text of runs in
  hexadecimal (`41-5a,5f`), which `ofTable` reads.
-/
import GatedFormula.Text.Digits

namespace GatedFormula

/-- A set of code points: runs from a first to a last code point, ascending and apart. -/
structure CharSet where
  runs : List (Nat × Nat)
  deriving Repr, DecidableEq, Inhabited

namespace CharSet

/-- The largest code point. -/
def last : Nat := 0x10ffff

/-- Is a code point in one of the ascending runs? -/
def inRuns (n : Nat) : List (Nat × Nat) → Bool
  | [] => false
  | (lo, hi) :: rest => if n < lo then false else n ≤ hi || inRuns n rest

/-- Membership. -/
def contains (s : CharSet) (c : Char) : Bool := inRuns c.toNat s.runs

/-- Joins each run with the next ones that overlap or touch it, in runs sorted by their start. -/
def joinRuns : List (Nat × Nat) → List (Nat × Nat)
  | [] => []
  | run :: rest =>
    match joinRuns rest with
    | [] => [run]
    | next :: more =>
      if next.1 ≤ run.2 + 1 then (run.1, max run.2 next.2) :: more else run :: next :: more

/-- The set of all code points in some runs. -/
def ofRuns (runs : List (Nat × Nat)) : CharSet :=
  ⟨joinRuns ((runs.filter fun r => r.1 ≤ r.2).mergeSort fun a b => a.1 ≤ b.1)⟩

/-- The set with no members. -/
def empty : CharSet := ⟨[]⟩

/-- The set of all code points. -/
def full : CharSet := ⟨[(0, last)]⟩

/-- The set of one character. -/
def single (c : Char) : CharSet := ⟨[(c.toNat, c.toNat)]⟩

/-- The characters from one to another. -/
def range (lo hi : Char) : CharSet := ofRuns [(lo.toNat, hi.toNat)]

/-- The members of either set. -/
def union (s t : CharSet) : CharSet := ofRuns (s.runs ++ t.runs)

/-- The runs between some runs, from a code point on. -/
def gaps : Nat → List (Nat × Nat) → List (Nat × Nat)
  | from', [] => if from' ≤ last then [(from', last)] else []
  | from', (lo, hi) :: rest =>
    if from' < lo then (from', lo - 1) :: gaps (hi + 1) rest else gaps (hi + 1) rest

/-- The code points that are no members. -/
def complement (s : CharSet) : CharSet := ⟨gaps 0 s.runs⟩

/-- The members of both sets. -/
def inter (s t : CharSet) : CharSet := (s.complement.union t.complement).complement

/-- The members of the first set that are not in the second. -/
def diff (s t : CharSet) : CharSet := s.inter t.complement

/-- The members of exactly one set. -/
def symmDiff (s t : CharSet) : CharSet := (s.diff t).union (t.diff s)

/-- Has the set no members? -/
def isEmpty (s : CharSet) : Bool := s.runs.isEmpty

/-- Reads one run of a table, `lo` or `lo-hi`. -/
def runOfText (s : String) : Nat × Nat :=
  match (s.splitOn "-").map fun part => (Text.digits? 16 part.toList).getD 0 with
  | [lo, hi] => (lo, hi)
  | lo :: _ => (lo, lo)
  | [] => (1, 0)

/-- Reads the lines of a table of runs in hexadecimal, separated by commas. -/
def ofTable (lines : List String) : CharSet :=
  ofRuns (lines.flatMap fun s => (s.splitOn ",").map runOfText)

end CharSet

end GatedFormula
