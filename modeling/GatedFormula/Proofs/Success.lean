/-
  The ways in which a formula succeeds.
  - `Formula.Succeeds` has one rule for each way in which plain evaluation comes to an outcome, with the parts that
    it takes to an outcome first.
  - `Formula.succeeds`: there are no other ways.
-/
import GatedFormula.Proofs.Launch

namespace GatedFormula.Formula

/-- The formula at a place comes to an outcome, by its parts. -/
inductive Succeeds (s : Setting) : Formula → Place → Outcome → Prop
  | array {elements : List Formula} {p : Place} {outs : List Outcome}
      (he : (inTurnEach s elements p 0).result = .ok outs) :
      Succeeds s (.array elements) p (.node (.array p (outs.map Outcome.value)) outs)
  | binary {op : String} {l r : Formula} {p : Place} {a b : Outcome} {v : Value}
      (hl : (l.inTurn s (p.child 0)).result = .ok a) (hr : (r.inTurn s (p.child 1)).result = .ok b)
      (hv : applyBinary op a.value b.value = .ok v) : Succeeds s (.binary op l r) p (.node v [a, b])
  | call {callee : Formula} {arguments : List Formula} {p : Place} {g o : Outcome} {outs : List Outcome}
      (hc : (callee.inTurn s (p.child 0)).result = .ok g) (ha : (inTurnEach s arguments p 1).result = .ok outs)
      (h : (callInTurn s p g outs).result = .ok o) : Succeeds s (.call callee arguments) p o
  | sequence {body : List Formula} {p : Place} {o : Outcome} (h : (inTurnLast s body p 0 0).result = .ok o) :
      Succeeds s (.sequence body) p o
  | consequent {t c a : Formula} {p : Place} {x y : Outcome} (ht : (t.inTurn s (p.child 0)).result = .ok x)
      (hx : x.value.isTruthy) (hc : (c.inTurn s (p.child 1)).result = .ok y) :
      Succeeds s (.conditional t c a) p (.node y.value [x, y])
  | alternate {t c a : Formula} {p : Place} {x y : Outcome} (ht : (t.inTurn s (p.child 0)).result = .ok x)
      (hx : ¬ x.value.isTruthy) (ha : (a.inTurn s (p.child 2)).result = .ok y) :
      Succeeds s (.conditional t c a) p (.node y.value [x, y])
  | name {n : String} {p : Place} {v : Value} (hn : s.context.get? n = some v) : Succeeds s (.name n) p (.leaf v)
  | literal (v : Literal) (raw : Option String) (p : Place) : Succeeds s (.literal v raw) p (.leaf v.toValue)
  | right {op : String} {lo : LogicalOperator} {l r : Formula} {p : Place} {a b : Outcome}
      (hl : (l.inTurn s (p.child 0)).result = .ok a) (ho : LogicalOperator.ofSymbol? op = some lo)
      (hn : lo.needsRight a.value.isTruthy) (hr : (r.inTurn s (p.child 1)).result = .ok b) :
      Succeeds s (.logical op l r) p (.node b.value [a, b])
  | left {op : String} {lo : LogicalOperator} {l r : Formula} {p : Place} {a : Outcome}
      (hl : (l.inTurn s (p.child 0)).result = .ok a) (ho : LogicalOperator.ofSymbol? op = some lo)
      (hn : ¬ lo.needsRight a.value.isTruthy) : Succeeds s (.logical op l r) p (.node a.value [a])
  | member {object property : Formula} {computed : Bool} {p : Place} {a key : Outcome} {v : Value}
      (ha : (object.inTurn s (p.child 0)).result = .ok a)
      (hk : (keyInTurn s computed property (p.child 1)).result = .ok key)
      (hv : s.read a.value key.value = .ok v) : Succeeds s (.member object property computed) p (.node v [a, key])
  | self (p : Place) : Succeeds s .self p ⟨s.context.toValue, 0, 0⟩
  | unary {op : String} {a : Formula} {before : Bool} {p : Place} {x : Outcome} {v : Value}
      (ha : (a.inTurn s (p.child 0)).result = .ok x) (hv : applyUnary op x.value = .ok v) :
      Succeeds s (.unary op a before) p (.node v [x])

open Traced

variable {s : Setting}

theorem exists_of_map_node {r : Except Fault Value} {outs : List Outcome} {o : Outcome}
    (h : (Traced.ofResult (r.map fun v => Outcome.node v outs)).result = .ok o) :
    ∃ v, r = .ok v ∧ o = .node v outs := by
  cases r with
  | ok v => exact ⟨v, rfl, (Except.ok.inj h).symm⟩
  | error g => cases h

theorem succeeds_conditional {t c a : Formula} {p : Place} {o : Outcome}
    (h : (inTurn s (.conditional t c a) p).result = .ok o) : Succeeds s (.conditional t c a) p o := by
  rw [inTurn] at h
  obtain ⟨x, ht, h⟩ := ok_of_bind h
  by_cases hx : x.value.isTruthy
  · simp only [if_pos hx] at h
    obtain ⟨y, hc, h⟩ := ok_of_bind h
    obtain rfl := Except.ok.inj h
    exact .consequent ht hx hc
  · simp only [if_neg hx] at h
    obtain ⟨y, ha, h⟩ := ok_of_bind h
    obtain rfl := Except.ok.inj h
    exact .alternate ht hx ha

theorem succeeds_logical {op : String} {l r : Formula} {p : Place} {o : Outcome}
    (h : (inTurn s (.logical op l r) p).result = .ok o) : Succeeds s (.logical op l r) p o := by
  rw [inTurn] at h
  obtain ⟨a, hl, h⟩ := ok_of_bind h
  cases ho : LogicalOperator.ofSymbol? op with
  | none => rw [ho] at h; cases h
  | some lo =>
    simp only [ho] at h
    by_cases hn : lo.needsRight a.value.isTruthy
    · rw [if_pos hn] at h
      obtain ⟨b, hr, h⟩ := ok_of_bind h
      obtain rfl := Except.ok.inj h
      exact .right hl ho hn hr
    · rw [if_neg hn] at h
      obtain rfl := Except.ok.inj h
      exact .left hl ho hn

/-- **A formula succeeds in one of these ways.** -/
theorem succeeds {f : Formula} {p : Place} {o : Outcome} (h : (f.inTurn s p).result = .ok o) : Succeeds s f p o := by
  cases f with
  | array elements =>
    rw [inTurn] at h
    obtain ⟨outs, he, h⟩ := ok_of_bind h
    obtain rfl := Except.ok.inj h
    exact .array he
  | binary op l r =>
    rw [inTurn] at h
    obtain ⟨a, hl, h⟩ := ok_of_bind h
    obtain ⟨b, hr, h⟩ := ok_of_bind h
    obtain ⟨v, hv, rfl⟩ := exists_of_map_node h
    exact .binary hl hr hv
  | call callee arguments =>
    rw [inTurn_call] at h
    obtain ⟨g, hc, h⟩ := ok_of_bind h
    obtain ⟨outs, ha, h⟩ := ok_of_bind h
    exact .call hc ha h
  | sequence body => exact .sequence h
  | conditional t c a => exact succeeds_conditional h
  | name n =>
    rw [inTurn] at h
    cases hn : s.context.get? n with
    | none => rw [hn] at h; cases h
    | some v =>
      rw [hn] at h
      obtain rfl := Except.ok.inj h
      exact .name hn
  | literal v raw =>
    obtain rfl := Except.ok.inj h
    exact .literal v raw p
  | logical op l r => exact succeeds_logical h
  | member object property computed =>
    rw [inTurn_member] at h
    obtain ⟨a, ha, h⟩ := ok_of_bind h
    obtain ⟨key, hk, h⟩ := ok_of_bind h
    obtain ⟨v, hv, rfl⟩ := exists_of_map_node h
    exact .member ha hk hv
  | self =>
    obtain rfl := Except.ok.inj h
    exact .self p
  | unary op a before =>
    rw [inTurn] at h
    obtain ⟨x, ha, h⟩ := ok_of_bind h
    obtain ⟨v, hv, rfl⟩ := exists_of_map_node h
    exact .unary ha hv

end GatedFormula.Formula
