/-
  Policies: which members may be read.
  - A policy is a list of checks, and one check that approves a read is enough. Without a policy, or with
    an empty one, nothing may be read.
  - `readMember` is the only way to a member: it asks the policy first.
  - `Policy.standard` opens what is really there: own members, characters and methods of texts.
-/
import GatedFormula.Journal

namespace GatedFormula

/-- Approves of reading a key of a container, or does not. -/
abbrev Check := Value → Key → Bool

/-- Checks that may approve a read. -/
structure Policy where
  checks : List Check
  deriving Inhabited

namespace Policy

/-- The policy that permits nothing. -/
def empty : Policy := ⟨[]⟩

/-- Adds a check after the others. -/
def push (p : Policy) (c : Check) : Policy := ⟨p.checks ++ [c]⟩

/-- Adds all checks of another policy after the own ones. -/
def extend (p q : Policy) : Policy := ⟨p.checks ++ q.checks⟩

/-- Does some check approve? -/
def permits (p : Policy) (container : Value) (key : Key) : Bool := p.checks.any fun c => c container key

end Policy

/-- Is a read permitted? Without a policy none is. -/
def isPermitted (policy : Option Policy) (container : Value) (key : Key) : Bool :=
  match policy with
  | some p => p.permits container key
  | none => false

/-- The fault of a read that is not permitted. -/
def denial (container : Value) (key : Key) : Fault :=
  .denied container.toText container.typeName key.text key.typeName

/-- The journal entry of a read that is not permitted. -/
def denialEntry (container : Value) (key : Key) : Entry :=
  .readDenied container.toText container.typeName key.text key.typeName

/-- Reads a member if that is permitted. -/
def readMember (policy : Option Policy) (container : Value) (key : Key) : Except Fault Value :=
  if isPermitted policy container key then .ok (container.member key) else .error (denial container key)

namespace Check

/-- Approves of members that a record or an array really holds. -/
def ownMember : Check
  | .record _ members, k => (members.lookup k.text).isSome
  | .array _ items, k =>
    match k.index? with
    | some i => i < items.length
    | none => false
  | _, _ => false

/-- Approves of indices into texts. -/
def textIndex : Check
  | .text _, k => k.index?.isSome
  | _, _ => false

/-- Approves of the methods of texts. -/
def textMethod : Check
  | .text _, .name n => (TextMethod.named? n).isSome
  | _, _ => false

end Check

/-- The policy of the three checks that open what is really there. -/
def Policy.standard : Policy := ⟨[Check.ownMember, Check.textIndex, Check.textMethod]⟩

end GatedFormula
