/-
  Resolving parts of a formula without evaluating anything.
  - Literals, names and members of them resolve to values, arrays item by item, calls to descriptions;
    everything else stays unknown.
  - Without a context, names and members stay unknown too.
  - `Resolution.reports` are the faults met, each with the place of its node, and `entries` the reads that
    were denied.

  Resolving reads members by the same gate as evaluation. Keys, arguments and items resolve quietly: their
  faults are those of nodes that are looked at anyway.
-/
import GatedFormula.Context
import GatedFormula.Formula.Basic
import GatedFormula.Policy
import GatedFormula.Static.CallSite

namespace GatedFormula

/-- A result with the faults and the journal entries that came with it. -/
structure Resolution (α : Type) where
  result : α
  reports : List (Place × Fault)
  entries : List Entry
  deriving Inhabited

namespace Resolution

variable {α β : Type}

/-- A result that nothing came with. -/
def pure (a : α) : Resolution α := ⟨a, [], []⟩

/-- A result that depends on another one, with all that came with both. -/
def bind (r : Resolution α) (f : α → Resolution β) : Resolution β :=
  let s := f r.result
  ⟨s.result, r.reports ++ s.reports, r.entries ++ s.entries⟩

instance : Monad Resolution where
  pure := pure
  bind := bind

/-- The same without its faults. -/
def quiet (r : Resolution α) : Resolution α := { r with reports := [] }

/-- Reports the fault of the node at a place. -/
def report (p : Place) (f : Fault) : Resolution Unit := ⟨(), [(p, f)], []⟩

/-- Keeps a journal entry. -/
def note (e : Entry) : Resolution Unit := ⟨(), [], [e]⟩

end Resolution

/-- What a formula can be resolved against. -/
structure Scope where
  context : Option Context
  policy : Option Policy
  deriving Inhabited

namespace Descriptor

/-- An array of what is known of its items: a value if all items are values. -/
def ofItems (id : Place) (items : List Descriptor) : Descriptor :=
  match items.mapM value? with
  | some values => .value (.array id values)
  | none => .array items

end Descriptor

namespace Static

open Descriptor

/-- Resolves the name of the node at a place. -/
def nameOf (s : Scope) (n : String) (p : Place) : Resolution Descriptor :=
  match s.context with
  | none => pure .unknown
  | some c =>
    match c.get? n with
    | some v => pure (.value v)
    | none => do
      Resolution.report p (.notFound n)
      pure .unknown

/-- The step of a property: its name, or what it resolves to if it is computed. -/
def stepOf (computed : Bool) (property : Formula) (resolved : Resolution Descriptor) : Resolution Segment :=
  if computed then do
    match ← resolved.quiet with
    | .value v => pure (Segment.ofValue v)
    | _ => pure .unknown
  else match property.name? with
    | some n => pure (.name n)
    | none => pure .unknown

/-- What the object of a member resolves to; only names and members count. A name reports its own fault
elsewhere. -/
def objectOf (object : Formula) (resolved : Resolution Descriptor) : Resolution Descriptor :=
  match object with
  | .member .. => resolved
  | .name _ => resolved.quiet
  | _ => pure .unknown

/-- Reads a key of what the object of the node at a place resolves to. -/
def readOf (s : Scope) (object : Descriptor) (k : Key) (p : Place) : Resolution Descriptor :=
  match object with
  | .value v =>
    if v.isUndefined then pure .unknown
    else match readMember s.policy v k with
      | .ok m => pure (.value m)
      | .error f => do
        Resolution.note (denialEntry v k)
        Resolution.report p f
        pure .unknown
  | _ => pure .unknown

/-- Resolves the member at a place; the step comes before the object. -/
def memberOf (s : Scope) (step : Resolution Segment) (object : Resolution Descriptor) (p : Place) :
    Resolution Descriptor :=
  match s.context with
  | none => pure .unknown
  | some _ => do
    match ← step with
    | .unknown => pure .unknown
    | .boolean _ => do
      Resolution.report p (.badKey .boolean)
      pure .unknown
    | .name n => do readOf s (← object) (.name n) p
    | .number x => do readOf s (← object) (.number x) p

/-- The array made at a place. The items resolve up to the first one that stays unknown; `done` are
those before, last one first. -/
def arrayOf (p : Place) (done : List Descriptor) : List (Resolution Descriptor) → Resolution Descriptor
  | [] => pure (.ofItems p done.reverse)
  | r :: rest => do
    let d ← r
    if d.isUnknown then pure .unknown else arrayOf p (d :: done) rest

/-- All results in order. -/
def allOf : List (Resolution Descriptor) → Resolution (List Descriptor)
  | [] => pure []
  | r :: rest => do
    let d ← r
    let ds ← allOf rest
    pure (d :: ds)

/-- The steps to a member, from the outside in. A step that is not known replaces all before it. -/
def pathOf (step : Resolution Segment) (object : Resolution (List Segment)) : Resolution (List Segment) := do
  let step ← step
  if step.isUnknown then pure [step]
  else do
    let path ← object
    pure (path ++ [step])

/-- The call site of a path and arguments, if the path ends in a name. The arguments count only then. -/
def siteOf (path : Resolution (List Segment)) (args : List (Resolution Descriptor)) :
    Resolution (Option CallSite) := do
  match (← path).reverse with
  | .name n :: outer => do
    let args ← allOf args
    pure (some ⟨n, outer.reverse, args⟩)
  | _ => pure none

end Static

namespace Formula

open Static

mutual
/-- Resolves the formula at a place. -/
def resolve (s : Scope) : Formula → Place → Resolution Descriptor
  | .literal v _, _ => pure (.value v.toValue)
  | .name n, p => nameOf s n p
  | .member object property computed, p =>
    memberOf s (stepOf computed property (resolve s property (p.child 1)))
      (objectOf object (resolve s object (p.child 0))) p
  | .array elements, p => (arrayOf p [] (resolveEach s elements p 0)).quiet
  | .call callee arguments, p =>
    (siteOf (resolvePath s callee (p.child 0)) (resolveEach s arguments p 1)).quiet >>= fun
      | some c => pure c.toDescriptor
      | none => pure .unknown
  | _, _ => pure .unknown

/-- Resolves formulas, at children of a place from a number on. -/
def resolveEach (s : Scope) : List Formula → Place → Nat → List (Resolution Descriptor)
  | [], _, _ => []
  | f :: rest, p, i => resolve s f (p.child i) :: resolveEach s rest p (i + 1)

/-- The steps of a callee. -/
def resolvePath (s : Scope) : Formula → Place → Resolution (List Segment)
  | .name n, _ => pure [.name n]
  | .member object property computed, p =>
    pathOf (stepOf computed property (resolve s property (p.child 1))) (resolvePath s object (p.child 0))
  | _, _ => pure [.unknown]
end

/-- Describes the call at a place, if its callee ends in a name. -/
def resolveCall (s : Scope) (callee : Formula) (arguments : List Formula) (p : Place) :
    Resolution (Option CallSite) :=
  (siteOf (resolvePath s callee (p.child 0)) (resolveEach s arguments p 1)).quiet

end Formula

end GatedFormula
