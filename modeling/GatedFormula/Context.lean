/-
  Contexts: the names a formula can use.
  A context has an identity, which is that of the record it is when a formula speaks of the context itself.
  It changes with every change to the context, so a record taken earlier stays what it was.
-/
import GatedFormula.Value.Basic

namespace GatedFormula

/-- Names and what they stand for. -/
structure Context where
  id : Place
  members : OrderedMap Value
  deriving Inhabited

namespace Context

/-- A context without names. -/
def empty (id : Place) : Context := ⟨id, .empty⟩

/-- What a name stands for. -/
def get? (c : Context) (name : String) : Option Value := c.members.get? name

/-- Is the name known? -/
def contains (c : Context) (name : String) : Bool := c.members.contains name

/-- Lets a name stand for a value; the context takes a new identity. -/
def insert (c : Context) (id : Place) (name : String) (v : Value) : Context :=
  ⟨id, c.members.insert name v⟩

/-- Adds all names of another context; the context takes a new identity. -/
def extend (c : Context) (id : Place) (other : Context) : Context :=
  ⟨id, c.members.extend other.members⟩

/-- The context as a record. -/
def toValue (c : Context) : Value := .ofMap c.id c.members

/-- The context whose names are the members of a record. -/
def ofRecord? : Value → Option Context
  | .record id members => some ⟨id, .ofList members⟩
  | _ => none

/-- Two contexts are alike if they are alike as records. -/
def alike (c d : Context) : Bool := c.toValue.alike d.toValue

end Context

end GatedFormula
