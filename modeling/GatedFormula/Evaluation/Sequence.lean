/-
  Plain evaluation, one part after the other.
  `Formula.inTurn` gives the result of a formula and the calls made for it, in order: from the left,
  the callee before the arguments, the object before the key, operands before their operator. It knows no
  time.
-/
import GatedFormula.Evaluation.Basic

namespace GatedFormula

/-- A result with the calls made for it, in order. -/
structure Traced (α : Type) where
  calls : List Invocation
  result : Except Fault α

namespace Traced

variable {α β : Type}

/-- A result that took no call. -/
def ofResult (r : Except Fault α) : Traced α := ⟨[], r⟩

/-- What comes next, with the calls of both; a failure is the end. -/
def bind (t : Traced α) (next : α → Traced β) : Traced β :=
  match t.result with
  | .ok a =>
    let u := next a
    ⟨t.calls ++ u.calls, u.result⟩
  | .error f => ⟨t.calls, .error f⟩

instance : Monad Traced where
  pure a := ofResult (.ok a)
  bind := bind

end Traced

namespace Formula

mutual
/-- The result of the formula at a place. -/
def inTurn (s : Setting) : Formula → Place → Traced Outcome
  | .array elements, p => do
    let outs ← inTurnEach s elements p 0
    pure (.node (.array p (outs.map Outcome.value)) outs)
  | .binary op l r, p => do
    let l ← inTurn s l (p.child 0)
    let r ← inTurn s r (p.child 1)
    .ofResult ((applyBinary op l.value r.value).map fun v => .node v [l, r])
  | .call callee arguments, p => do
    let f ← inTurn s callee (p.child 0)
    let args ← inTurnEach s arguments p 1
    match f.value with
    | .function g receiver =>
      ⟨[⟨p, g, receiver, args.map Outcome.value⟩],
        (s.host.invoke g receiver (args.map Outcome.value) p).map fun v =>
          ⟨v, (Outcome.node v (f :: args)).nodes, 1 + (Outcome.node v (f :: args)).calls⟩⟩
    | v => .ofResult (.error (.notCallable v.typeName))
  | .sequence body, p => inTurnLast s body p 0 0
  | .conditional t c a, p => do
    let t ← inTurn s t (p.child 0)
    let o ← if t.value.isTruthy then inTurn s c (p.child 1) else inTurn s a (p.child 2)
    pure (.node o.value [t, o])
  | .name n, _ =>
    match s.context.get? n with
    | some v => pure (.leaf v)
    | none => .ofResult (.error (.notFound n))
  | .literal v _, _ => pure (.leaf v.toValue)
  | .logical op l r, p => do
    let l ← inTurn s l (p.child 0)
    match LogicalOperator.ofSymbol? op with
    | none => .ofResult (.error (.unknownOperator op))
    | some o =>
      if o.needsRight l.value.isTruthy then do
        let r ← inTurn s r (p.child 1)
        pure (.node r.value [l, r])
      else pure (.node l.value [l])
  | .member object property computed, p => do
    let object ← inTurn s object (p.child 0)
    let key ←
      if computed then inTurn s property (p.child 1)
      else match property.name? with
        | some n => pure (.leaf (.text n))
        | none => .ofResult (.error (.badNode property.kind.tag))
    .ofResult ((s.read object.value key.value).map fun v => .node v [object, key])
  | .self, _ => pure ⟨s.context.toValue, 0, 0⟩
  | .unary op a _, p => do
    let a ← inTurn s a (p.child 0)
    .ofResult ((applyUnary op a.value).map fun v => .node v [a])

/-- The results of formulas, at children of a place from a number on. -/
def inTurnEach (s : Setting) : List Formula → Place → Nat → Traced (List Outcome)
  | [], _, _ => pure []
  | f :: rest, p, i => do
    let o ← inTurn s f (p.child i)
    let os ← inTurnEach s rest p (i + 1)
    pure (o :: os)

/-- The result of the last of some formulas; `i` of them are done, with `calls` calls. -/
def inTurnLast (s : Setting) : List Formula → Place → (i calls : Nat) → Traced Outcome
  | [], _, _, _ => .ofResult (.error .emptySequence)
  | [f], p, i, calls => do
    let o ← inTurn s f (p.child i)
    pure ⟨o.value, o.nodes + (i + 1), calls + o.calls⟩
  | f :: rest, p, i, calls => do
    let o ← inTurn s f (p.child i)
    inTurnLast s rest p (i + 1) (calls + o.calls)
end

end Formula

end GatedFormula
