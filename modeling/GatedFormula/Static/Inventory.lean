/-
  The inventory of a formula: its call sites and the faults that can be seen without evaluating it.
  - `Formula.survey` visits the nodes from the left, each before its parts, and collects what it finds.
  - `Analysis` is the inventory; `Analysis.of` reports each node's fault once.
-/
import GatedFormula.Static.Resolver

namespace GatedFormula

/-- What a visit of some nodes finds: call sites, faults with the places of their nodes, journal entries. -/
structure Findings where
  calls : List CallSite
  reports : List (Place × Fault)
  entries : List Entry
  deriving Inhabited

namespace Findings

/-- Nothing. -/
def none : Findings := ⟨[], [], []⟩

/-- Findings after others. -/
def append (a b : Findings) : Findings :=
  ⟨a.calls ++ b.calls, a.reports ++ b.reports, a.entries ++ b.entries⟩

instance : Append Findings := ⟨append⟩

/-- The findings of a resolved node: its faults and entries. -/
def ofResolution {α : Type} (r : Resolution α) : Findings := ⟨[], r.reports, r.entries⟩

/-- The findings of a call: the call site, if it has a name. -/
def ofCall (r : Resolution (Option CallSite)) : Findings :=
  match r.result with
  | some c => ⟨[c], r.reports, r.entries ++ [.callSite c.text]⟩
  | Option.none => ofResolution r

end Findings

namespace Formula

mutual
/-- Visits the formula at a place. -/
def survey (s : Scope) : Formula → Place → Findings
  | .array elements, p => surveyEach s elements p 0
  | .binary _ l r, p => survey s l (p.child 0) ++ survey s r (p.child 1)
  | .call callee arguments, p =>
    .ofCall (resolveCall s callee arguments p) ++ survey s callee (p.child 0) ++
      surveyEach s arguments p 1
  | .sequence body, p => if body.isEmpty then ⟨[], [(p, .emptySequence)], []⟩ else surveyEach s body p 0
  | .conditional t c a, p =>
    survey s t (p.child 0) ++ survey s c (p.child 1) ++ survey s a (p.child 2)
  | .name n, p => .ofResolution (resolve s (.name n) p)
  | .literal .., _ => .none
  | .logical _ l r, p => survey s l (p.child 0) ++ survey s r (p.child 1)
  | .member object property computed, p =>
    .ofResolution (resolve s (.member object property computed) p) ++ survey s object (p.child 0) ++
      if computed then survey s property (p.child 1) else .none
  | .self, _ => .none
  | .unary _ a _, p => survey s a (p.child 0)

/-- Visits formulas, at children of a place from a number on. -/
def surveyEach (s : Scope) : List Formula → Place → Nat → Findings
  | [], _, _ => .none
  | f :: rest, p, i => survey s f (p.child i) ++ surveyEach s rest p (i + 1)
end

end Formula

/-- Call sites and faults. -/
structure Analysis where
  calls : List CallSite
  faults : List Fault
  deriving Inhabited

namespace Analysis

/-- The analysis without findings. -/
def empty : Analysis := ⟨[], []⟩

/-- The findings of one analysis after those of another. -/
def append (a b : Analysis) : Analysis := ⟨a.calls ++ b.calls, a.faults ++ b.faults⟩

instance : Append Analysis := ⟨append⟩

/-- All findings in order. -/
def merge (parts : List Analysis) : Analysis := parts.foldl append empty

/-- Are there no faults? -/
def isClean (a : Analysis) : Bool := a.faults.isEmpty

/-- The reports without those of places that have been seen, and those of each place only once. -/
def firstReports (seen : List Place) : List (Place × Fault) → List Fault
  | [] => []
  | (p, f) :: rest => if p ∈ seen then firstReports seen rest else f :: firstReports (p :: seen) rest

/-- The analysis of findings: each node's fault once, where it was found first. -/
def of (found : Findings) : Analysis := ⟨found.calls, firstReports [] found.reports⟩

end Analysis

/-- Analyses a formula, whose place is `origin`, and keeps a journal. -/
def analyzed (s : Scope) (f : Formula) (origin : Place) : Analysis × List Entry :=
  let found := f.survey s origin
  let a := Analysis.of found
  (a, .analyzing f.kind :: found.entries ++ [.analyzed a.calls.length a.faults.length])

/-- Analyses a formula, whose place is `origin`. -/
def analyze (s : Scope) (f : Formula) (origin : Place) : Analysis := (analyzed s f origin).1

end GatedFormula
