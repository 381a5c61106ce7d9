/-
  When each part of a formula has its result.
  - `Timed.pair` and `Timed.join` say when parts that go on side by side are all there, or fail together.
  - `Formula.timeline` gives the result of a formula and its time by those of its parts: operands, items,
    callee and arguments, and object and key start with the formula, all else starts when what comes before
    it is there, and only calls take time.
-/
import GatedFormula.Evaluation.Basic

namespace GatedFormula

namespace Timed

variable {α β : Type}

/-- What comes next starts when the result is there; a failure is the end. -/
def after (t : Timed α) (next : Nat → α → Timed β) : Timed β :=
  match t.result with
  | .ok a => next t.time a
  | .error f => ⟨t.time, .error f⟩

/-- What a result gives at once. -/
def map (g : α → β) (t : Timed α) : Timed β := ⟨t.time, t.result.map g⟩

/-- Two parts side by side: both are there at the later time. One failure is the failure of both; of two
failures it is the earlier one, and the left one if they come at the same time. -/
def pair (l : Timed α) (r : Timed β) : Timed (α × β) :=
  match l.result, r.result with
  | .ok a, .ok b => ⟨max l.time r.time, .ok (a, b)⟩
  | .error f, .ok _ => ⟨l.time, .error f⟩
  | .ok _, .error g => ⟨r.time, .error g⟩
  | .error f, .error g => if l.time ≤ r.time then ⟨l.time, .error f⟩ else ⟨r.time, .error g⟩

/-- Parts side by side that fail eagerly, started at some time. -/
def joinEager (start : Nat) : List (Timed α) → Timed (List α)
  | [] => ⟨start, .ok []⟩
  | t :: rest => (pair t (joinEager start rest)).map fun (a, as) => a :: as

/-- Parts side by side that fail in order, started at some time: the first one that fails is the failure of
all, at the time when it and all before it are there. -/
def joinInOrder (start : Nat) : List (Timed α) → Timed (List α)
  | [] => ⟨start, .ok []⟩
  | t :: rest => t.after fun time a =>
    let others := joinInOrder start rest
    ⟨max time others.time, others.result.map (a :: ·)⟩

/-- Parts side by side, started at some time. -/
def join : Joint → Nat → List (Timed α) → Timed (List α)
  | .eager => joinEager
  | .inOrder => joinInOrder

end Timed

namespace Formula

mutual
/-- The result of the formula at a place, if it starts at a time. -/
def timeline (s : Setting) : Formula → Place → (start : Nat) → Timed Outcome
  | .array elements, p, start =>
    (Timed.join (.ofSize elements.length) start (timelines s elements p 0 start)).map fun outs =>
      .node (.array p (outs.map Outcome.value)) outs
  | .binary op l r, p, start =>
    (Timed.pair (timeline s l (p.child 0) start) (timeline s r (p.child 1) start)).after fun now (l, r) =>
      ⟨now, (applyBinary op l.value r.value).map fun v => .node v [l, r]⟩
  | .call callee arguments, p, start =>
    (Timed.pair (timeline s callee (p.child 0) start)
        (Timed.join (.ofSize arguments.length) start (timelines s arguments p 1 start))).after
      fun now (f, args) =>
        match f.value with
        | .function g receiver =>
          ⟨now + s.host.timeOf g, (s.host.invoke g receiver (args.map Outcome.value) p).map fun v =>
            ⟨v, (Outcome.node v (f :: args)).nodes, 1 + (Outcome.node v (f :: args)).calls⟩⟩
        | v => ⟨now, .error (.notCallable v.typeName)⟩
  | .sequence body, p, start => timelineInTurn s body p 0 0 start
  | .conditional t c a, p, start =>
    (timeline s t (p.child 0) start).after fun now t =>
      if t.value.isTruthy then (timeline s c (p.child 1) now).map fun o => .node o.value [t, o]
      else (timeline s a (p.child 2) now).map fun o => .node o.value [t, o]
  | .name n, _, start =>
    match s.context.get? n with
    | some v => ⟨start, .ok (.leaf v)⟩
    | none => ⟨start, .error (.notFound n)⟩
  | .literal v _, _, start => ⟨start, .ok (.leaf v.toValue)⟩
  | .logical op l r, p, start =>
    (timeline s l (p.child 0) start).after fun now l =>
      match LogicalOperator.ofSymbol? op with
      | none => ⟨now, .error (.unknownOperator op)⟩
      | some o =>
        if o.needsRight l.value.isTruthy then
          (timeline s r (p.child 1) now).map fun r => .node r.value [l, r]
        else ⟨now, .ok (.node l.value [l])⟩
  | .member object property computed, p, start =>
    let key : Timed Outcome :=
      if computed then timeline s property (p.child 1) start
      else match property.name? with
        | some n => ⟨start, .ok (.leaf (.text n))⟩
        | none => ⟨start, .error (.badNode property.kind.tag)⟩
    (Timed.pair (timeline s object (p.child 0) start) key).after fun now (object, key) =>
      ⟨now, (s.read object.value key.value).map fun v => .node v [object, key]⟩
  | .self, _, start => ⟨start, .ok ⟨s.context.toValue, 0, 0⟩⟩
  | .unary op a _, p, start =>
    (timeline s a (p.child 0) start).after fun now a =>
      ⟨now, (applyUnary op a.value).map fun v => .node v [a]⟩

/-- The results of formulas side by side, at children of a place from a number on. -/
def timelines (s : Setting) : List Formula → Place → Nat → (start : Nat) → List (Timed Outcome)
  | [], _, _, _ => []
  | f :: rest, p, i, start => timeline s f (p.child i) start :: timelines s rest p (i + 1) start

/-- The result of formulas one after the other; `i` of them are done, with `calls` calls. -/
def timelineInTurn (s : Setting) : List Formula → Place → (i calls : Nat) → (start : Nat) →
    Timed Outcome
  | [], _, _, _, start => ⟨start, .error .emptySequence⟩
  | [f], p, i, calls, start =>
    (timeline s f (p.child i) start).map fun o => ⟨o.value, o.nodes + (i + 1), calls + o.calls⟩
  | f :: rest, p, i, calls, start =>
    (timeline s f (p.child i) start).after fun now o =>
      timelineInTurn s rest p (i + 1) (calls + o.calls) now
end

end Formula

end GatedFormula
