/-
  Validation: the call sites of an analysis, sorted by the signatures they are calls of.
  - `Buckets` hold the argument lists that a signature accepts and those it does not.
  - `validate` fills the buckets of every signature in a table, in the order of the table.
-/
import GatedFormula.Journal
import GatedFormula.Signature.Basic
import GatedFormula.Static.Inventory

namespace GatedFormula

/-- Argument lists of calls of one function, in the order in which the calls were found. -/
structure Buckets where
  valid : List (List Descriptor)
  invalid : List (List Descriptor)
  deriving Inhabited

namespace Buckets

/-- No argument lists. -/
def empty : Buckets := ⟨[], []⟩

/-- Are there no argument lists? -/
def isEmpty (b : Buckets) : Bool := b.valid.isEmpty && b.invalid.isEmpty

/-- Puts a call site into its bucket if it is a call of the function. -/
def add (key : String) (s : Signature) (b : Buckets) (c : CallSite) : Buckets :=
  if s.matchesCall key c then
    if s.accepts c.args then { b with valid := b.valid ++ [c.args] }
    else { b with invalid := b.invalid ++ [c.args] }
  else b

/-- The buckets of a signature for some call sites. -/
def ofCalls (key : String) (s : Signature) (calls : List CallSite) : Buckets :=
  calls.foldl (add key s) empty

end Buckets

/-- The buckets of every signature in a table. -/
def validate (table : SignatureTable) (a : Analysis) : List (String × Buckets) :=
  table.entries.map fun (key, s) => (key, Buckets.ofCalls key s a.calls)

/-- The journal of a validation. -/
def validationJournal (table : SignatureTable) (a : Analysis) : List Entry :=
  [.validated a.calls.length table.size]

end GatedFormula
