/-
  The evaluation of formulas.
  - `Formula.launch` is the activity of evaluating a formula: operands, items, callee and arguments, and
    object and key go on side by side; tests, left operands and parts of a sequence come first.
  - `Formula.callCount` bounds the jumps in time it takes, since only calls take time.
  - `evaluate` runs it from time zero and keeps a journal.

  The node at a place gives its place as identity to what it makes.
-/
import GatedFormula.Evaluation.Progress
import GatedFormula.Formula.Operation

namespace GatedFormula

namespace Activity

/-- One outcome after others. -/
def after (first : Activity) (next : Outcome → Activity) : Activity :=
  .sequel first fun _ outs => next (outs.getD 0 default)

/-- The outcomes of two members, put together by a result. -/
def both (l r : Activity) (next : Outcome → Outcome → Activity) : Activity :=
  .sequel (.joined .eager [l, r]) fun _ outs => next (outs.getD 0 default) (outs.getD 1 default)

/-- The result of a call at some time, with the outcomes of callee and arguments. -/
def completed (s : Setting) (f : Function) (receiver : Option Value) (arguments : List Value) (site : Place)
    (parts : List Outcome) (time : Nat) : Activity :=
  .telling (.completed f time) <| ofResult <|
    (s.host.invoke f receiver arguments site).map fun v =>
      let o := Outcome.node v parts
      { o with calls := 1 + o.calls }

/-- A call at some time, with the outcomes of the callee and the arguments. -/
def calling (s : Setting) (site : Place) (now : Nat) (parts : List Outcome) : Activity :=
  let arguments := (parts.drop 1).map Outcome.value
  match (parts.getD 0 default).value with
  | .function f receiver =>
    let time := s.host.timeOf f
    let rest := completed s f receiver arguments site parts (now + time)
    .telling (.invoked ⟨site, f, receiver, arguments⟩)
      (if time = 0 then rest else .waiting (now + time) rest)
  | v => .failed (.notCallable v.typeName)

/-- The read of a member, with the outcomes of the object and the key. A denied read is noted. -/
def reading (s : Setting) (object key : Outcome) : Activity :=
  match s.read object.value key.value with
  | .ok v => .settled [.node v [object, key]]
  | .error f =>
    match s.denied? object.value key.value with
    | some entry => .telling (.noted entry) (.failed f)
    | none => .failed f

end Activity

namespace Formula

open Activity

mutual
/-- The activity of evaluating a formula at a place. -/
def launch (s : Setting) : Formula → Place → Activity
  | .array elements, p =>
    .sequel (.joined (.ofSize elements.length) (launchAll s elements p 0)) fun _ outs =>
      .settled [.node (.array p (outs.map Outcome.value)) outs]
  | .binary op l r, p =>
    both (launch s l (p.child 0)) (launch s r (p.child 1)) fun l r =>
      ofResult ((applyBinary op l.value r.value).map fun v => .node v [l, r])
  | .call callee arguments, p =>
    .sequel (.joined .eager [launch s callee (p.child 0),
        .joined (.ofSize arguments.length) (launchAll s arguments p 1)])
      fun now parts => calling s p now parts
  | .sequence body, p => launchInTurn s body p 0 0
  | .conditional t c a, p =>
    after (launch s t (p.child 0)) fun t =>
      if t.value.isTruthy then after (launch s c (p.child 1)) fun o => .settled [.node o.value [t, o]]
      else after (launch s a (p.child 2)) fun o => .settled [.node o.value [t, o]]
  | .name n, _ =>
    match s.context.get? n with
    | some v => .settled [.leaf v]
    | none => .failed (.notFound n)
  | .literal v _, _ => .settled [.leaf v.toValue]
  | .logical op l r, p =>
    after (launch s l (p.child 0)) fun l =>
      match LogicalOperator.ofSymbol? op with
      | none => .failed (.unknownOperator op)
      | some o =>
        if o.needsRight l.value.isTruthy then
          after (launch s r (p.child 1)) fun r => .settled [.node r.value [l, r]]
        else .settled [.node l.value [l]]
  | .member object property computed, p =>
    let key :=
      if computed then launch s property (p.child 1)
      else match property.name? with
        | some n => .settled [.leaf (.text n)]
        | none => .failed (.badNode property.kind.tag)
    both (launch s object (p.child 0)) key (reading s)
  | .self, _ => .settled [⟨s.context.toValue, 0, 0⟩]
  | .unary op a _, p =>
    after (launch s a (p.child 0)) fun a => ofResult ((applyUnary op a.value).map fun v => .node v [a])

/-- The activities of formulas side by side, at children of a place from a number on. -/
def launchAll (s : Setting) : List Formula → Place → Nat → List Activity
  | [], _, _ => []
  | f :: rest, p, i => launch s f (p.child i) :: launchAll s rest p (i + 1)

/-- The activity of formulas one after the other; `i` of them have been evaluated, with `calls` calls. -/
def launchInTurn (s : Setting) : List Formula → Place → (i calls : Nat) → Activity
  | [], _, _, _ => .failed .emptySequence
  | [f], p, i, calls =>
    after (launch s f (p.child i)) fun o => .settled [⟨o.value, o.nodes + (i + 1), calls + o.calls⟩]
  | f :: rest, p, i, calls =>
    after (launch s f (p.child i)) fun o => launchInTurn s rest p (i + 1) (calls + o.calls)
end

mutual
/-- The number of calls in a formula. -/
def callCount : Formula → Nat
  | .array elements => callCountAll elements
  | .binary _ l r | .logical _ l r => l.callCount + r.callCount
  | .call callee arguments => 1 + callee.callCount + callCountAll arguments
  | .sequence body => callCountAll body
  | .conditional t c a => t.callCount + c.callCount + a.callCount
  | .name _ | .literal .. | .self => 0
  | .member object property _ => object.callCount + property.callCount
  | .unary _ a _ => a.callCount

/-- The number of calls in formulas. -/
def callCountAll : List Formula → Nat
  | [] => 0
  | f :: rest => f.callCount + callCountAll rest
end

end Formula

/-! ## The number of jumps -/

namespace Activity

theorem within_ofResult (r : Except Fault Outcome) (n : Nat) : Within (ofResult r) n := by
  cases r <;> simp [ofResult, Within]

theorem within_after {first : Activity} {next : Outcome → Activity} {k m n : Nat} (hn : k + m ≤ n)
    (hf : Within first k) (h : ∀ o, Within (next o) m) : Within (after first next) n :=
  ⟨k, m, hn, hf, fun _ _ => h _⟩

theorem within_both {l r : Activity} {next : Outcome → Outcome → Activity} {k m n : Nat}
    (hn : k + m ≤ n) (hl : Within l k) (hr : Within r m) (h : ∀ x y, Within (next x y) 0) :
    Within (both l r next) n :=
  ⟨n, 0, by omega, ⟨k, m, hn, hl, m, 0, by omega, hr, trivial⟩, fun _ _ => h _ _⟩

/-- A call waits once at most. -/
theorem within_calling (s : Setting) (site : Place) (now : Nat) (parts : List Outcome) :
    Within (calling s site now parts) 1 := by
  unfold calling
  split
  · simp only [Within]
    split
    · simp only [completed, Within]
      exact within_ofResult _ _
    · exact ⟨0, by omega, within_ofResult _ _⟩
  · simp [Within]

theorem within_reading (s : Setting) (object key : Outcome) (n : Nat) : Within (reading s object key) n := by
  unfold reading
  split
  · simp [Within]
  · split <;> simp [Within]

end Activity

namespace Formula

open Activity

mutual
/-- Evaluating takes no more jumps than there are calls. -/
theorem within_launch (s : Setting) : (f : Formula) → (p : Place) → Within (launch s f p) f.callCount
  | .array elements, p => by
    exact ⟨_, 0, Nat.le_refl _, withinAll_launchAll s elements p 0, fun _ _ => trivial⟩
  | .binary op l r, p =>
    within_both (Nat.le_refl _) (within_launch s l _) (within_launch s r _) fun _ _ => within_ofResult _ _
  | .call callee arguments, p => by
    refine ⟨callee.callCount + callCountAll arguments, 1, by simp only [callCount]; omega, ?_,
      fun now parts => within_calling s p now parts⟩
    exact ⟨_, _, Nat.le_refl _, within_launch s callee _, _, 0, Nat.le_refl _,
      withinAll_launchAll s arguments p 1, trivial⟩
  | .sequence body, p => within_launchInTurn s body p 0 0
  | .conditional t c a, p => by
    refine within_after (m := c.callCount + a.callCount) (by simp only [callCount]; omega)
      (within_launch s t _) fun t => ?_
    split
    · exact within_after (m := 0) (by omega) (within_launch s c _) fun _ => trivial
    · exact within_after (m := 0) (by omega) (within_launch s a _) fun _ => trivial
  | .name n, _ => by
    simp only [launch]
    split <;> simp [Within]
  | .literal .., _ => trivial
  | .logical op l r, p => by
    refine within_after (m := r.callCount) (by simp only [callCount]; omega)
      (within_launch s l _) fun l => ?_
    split
    · simp [Within]
    · split
      · exact within_after (m := 0) (by omega) (within_launch s r _) fun _ => trivial
      · simp [Within]
  | .member object property computed, p => by
    refine within_both (k := object.callCount) (m := property.callCount) (by simp only [callCount]; omega)
      (within_launch s object _) ?_ fun _ _ => within_reading _ _ _ _
    split
    · exact within_launch s property _
    · split <;> simp [Within]
  | .self, _ => trivial
  | .unary op a _, p =>
    within_after (m := 0) (by simp only [callCount]; omega) (within_launch s a _)
      fun _ => within_ofResult _ _

/-- Nor do formulas side by side. -/
theorem withinAll_launchAll (s : Setting) : (fs : List Formula) → (p : Place) → (i : Nat) →
    WithinAll (launchAll s fs p i) (callCountAll fs)
  | [], _, _ => trivial
  | f :: rest, p, i => ⟨_, _, Nat.le_refl _, within_launch s f _, withinAll_launchAll s rest p (i + 1)⟩

/-- Nor do formulas one after the other. -/
theorem within_launchInTurn (s : Setting) : (fs : List Formula) → (p : Place) → (i calls : Nat) →
    Within (launchInTurn s fs p i calls) (callCountAll fs)
  | [], _, _, _ => by simp [launchInTurn, Within]
  | [f], p, i, calls =>
    within_after (m := 0) (by simp only [callCountAll]; omega) (within_launch s f _) fun _ => trivial
  | f :: g :: rest, p, i, calls =>
    within_after (m := callCountAll (g :: rest)) (by simp only [callCountAll]; omega) (within_launch s f _)
      fun _ => within_launchInTurn s (g :: rest) p (i + 1) _
end

end Formula

/-! ## Evaluations -/

/-- An evaluation: what came out, at what time, and what happened. -/
structure Evaluation where
  result : Except Fault Outcome
  time : Nat
  events : List Event

namespace Evaluation

/-- The journal of an evaluation. -/
def journal (e : Evaluation) : List Entry := e.events.filterMap Event.entry?

/-- The calls made, in order. -/
def invocations (e : Evaluation) : List Invocation := e.events.filterMap Event.call?

/-- The functions that gave results, each with the time. -/
def completions (e : Evaluation) : List (Function × Nat) :=
  e.events.filterMap fun
    | .completed f time => some (f, time)
    | _ => none

end Evaluation

/-- The last entry of a journal. -/
def closing : Except Fault Outcome → Entry
  | .ok o => .evaluated o.nodes o.calls
  | .error f => .evaluationFailed f

/-- Evaluates a formula. `origin` is the place of the whole formula. -/
def evaluate (s : Setting) (f : Formula) (origin : Place) : Evaluation :=
  let r := (f.launch s origin).run f.callCount 0
  let ending := r.2.get (Activity.run_isSome (f.within_launch s origin))
  let result := ending.result.map fun outs => outs.getD 0 default
  ⟨result, ending.time, .noted (.evaluating f.kind) :: r.1 ++ [.noted (closing result)]⟩

end GatedFormula
