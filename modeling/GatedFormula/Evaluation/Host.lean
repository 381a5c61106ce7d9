/-
  What an evaluation needs: names, permissions and a host.
  - `Host` supplies functions, each with the time it takes.
  - `Setting` puts context, policy and host together; `Host.invoke` calls any function.
-/
import GatedFormula.Method.Text
import GatedFormula.Policy
import GatedFormula.Standard.Library

namespace GatedFormula

/-- The host of an evaluation. -/
structure Host where
  /-- What a function of the host gives, by its identity, its receiver and its arguments. What it makes
  anew takes the place of the call as its identity. -/
  call : (function : Place) → (receiver : Option Value) → (arguments : List Value) → (site : Place) →
    Except Fault Value
  /-- The time between the call of a function and its result. -/
  delay : (function : Place) → Nat
  /-- The number that chance gives at a call. -/
  draw : (site : Place) → Float
  deriving Inhabited

/-- The time a function takes; only functions of the host take any. -/
def Host.timeOf (h : Host) : Function → Nat
  | .host id _ => h.delay id
  | .method _ | .standard .. => 0

/-- All that an evaluation depends on besides the formula. -/
structure Setting where
  context : Context
  policy : Option Policy
  host : Host
  deriving Inhabited

/-- Reads a member under a key that is a value itself: there has to be something to read of, the key has to
be a text or a number, and the policy has to permit it. -/
def Setting.read (s : Setting) (object key : Value) : Except Fault Value :=
  if object.isUndefined then .error .readOfUndefined
  else match key.key? with
    | none => .error (.badKey key.typeName)
    | some k => readMember s.policy object k

/-- The journal entry of a read that the policy does not permit, if it is what keeps from reading. -/
def Setting.denied? (s : Setting) (object key : Value) : Option Entry :=
  if object.isUndefined then none
  else key.key?.bind fun k => if isPermitted s.policy object k then none else some (denialEntry object k)

/-- Calls a function. -/
def Host.invoke (h : Host) (f : Function) (receiver : Option Value) (arguments : List Value) (site : Place) :
    Except Fault Value :=
  match f with
  | .host id _ => h.call id receiver arguments site
  | .method m => m.invoke receiver arguments site
  | .standard _ f => f.apply (h.draw site) arguments site

end GatedFormula
