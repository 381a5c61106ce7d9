/-
  Nodes launched under another policy and with other parts.
  - `Formula.Relaunches` relates the formula at a place to another one: launched under another policy, that one
    replays it, up to the outcome of plain evaluation.
  - For every kind of node with parts there is a lemma: two such nodes are related if those parts are that the
    evaluation of the first one starts.
-/
import GatedFormula.Proofs.Replay
import GatedFormula.Proofs.Visits

namespace GatedFormula

/-- The same setting under another policy. -/
def Setting.under (s : Setting) (policy : Option Policy) : Setting := { s with policy := policy }

namespace Formula

open Activity Traced

/-- The second formula, launched under the policy, replays the first one. -/
def Relaunches (s : Setting) (policy : Option Policy) (f f' : Formula) (p : Place) : Prop :=
  Replays (launch s f p) (launch (s.under policy) f' p) (inTurn s f p).single.outcome?

/-- So do formulas side by side. -/
def RelaunchesAll (s : Setting) (policy : Option Policy) (fs fs' : List Formula) (p : Place) (i : Nat) : Prop :=
  ReplaysAll (launchAll s fs p i) (launchAll (s.under policy) fs' p i) (inTurnEach s fs p i).outcome?

variable {s : Setting} {policy : Option Policy} {p : Place}

/-- A name is launched the same under any policy. -/
theorem relaunches_name (n : String) : Relaunches s policy (.name n) (.name n) p := by
  change Replays (launch s (.name n) p) (launch s (.name n) p) _
  exact (follows_launch s (.name n) (.root _ p)).replays

/-- Formulas side by side are related if they are so one by one. -/
theorem relaunchesAll : (fs : List Formula) → {fs' : List Formula} → {i : Nat} → fs'.length = fs.length →
    (∀ (j : Nat) (g g' : Formula), fs[j]? = some g → fs'[j]? = some g' →
      Relaunches s policy g g' (p.child (i + j))) → RelaunchesAll s policy fs fs' p i
  | [], [], _, _, _ => .nil
  | f :: rest, f' :: rest', i, hlen, h => by
    have hr := relaunchesAll (i := i + 1) rest (Nat.succ.inj hlen) fun j g g' hg hg' => by
      rw [show i + 1 + j = i + (j + 1) by omega]
      exact h (j + 1) g g' hg hg'
    rw [RelaunchesAll, inTurnEach_cons, outcome?_beside]
    exact .cons (h 0 f f' rfl rfl) hr

theorem relaunches_array {elements elements' : List Formula} (hlen : elements'.length = elements.length)
    (h : RelaunchesAll s policy elements elements' p 0) :
    Relaunches s policy (.array elements) (.array elements') p := by
  rw [Relaunches, inTurn, single, map_bind, outcome?_bind, launch, launch, hlen]
  exact .sequel (.joined h) fun _ outs _ => .settled _

theorem relaunches_binary {op : String} {l l' r r' : Formula} (hl : Relaunches s policy l l' (p.child 0))
    (hr : Relaunches s policy r r' (p.child 1)) : Relaunches s policy (.binary op l r) (.binary op l' r') p :=
  .both hl hr fun _ _ _ _ => replays_ofResult _

theorem relaunches_call {callee callee' : Formula} {arguments arguments' : List Formula}
    (hlen : arguments'.length = arguments.length) (hc : Relaunches s policy callee callee' (p.child 0))
    (ha : RelaunchesAll s policy arguments arguments' p 1) :
    Relaunches s policy (.call callee arguments) (.call callee' arguments') p := by
  have hj : ReplaysAll
      [launch s callee (p.child 0), .joined (.ofSize arguments.length) (launchAll s arguments p 1)]
      [launch (s.under policy) callee' (p.child 0),
        .joined (.ofSize arguments.length) (launchAll (s.under policy) arguments' p 1)]
      ((inTurn s callee (p.child 0)).single.beside ((inTurnEach s arguments p 1).beside (pure []))).outcome? := by
    rw [outcome?_beside, outcome?_beside]
    exact .cons hc (.cons (.joined ha) .nil)
  rw [Relaunches, single_inTurn_call, outcome?_bind, launch, launch, hlen]
  refine .sequel (.joined hj) fun now parts hp => ?_
  obtain ⟨o, outs, ho, houts, rfl⟩ := ok_of_parts (outcome?_eq_some.1 hp)
  exact replays_calling s p o outs now

/-- What comes in a sequence after a failure does not matter. -/
theorem replays_launchInTurn : (fs : List Formula) → {fs' : List Formula} → {i calls : Nat} →
    fs'.length = fs.length → (∀ (j : Nat) (g g' : Formula), (g, i + j) ∈ startedInTurn s fs p i →
      fs'[j]? = some g' → Relaunches s policy g g' (p.child (i + j))) →
    Replays (launchInTurn s fs p i calls) (launchInTurn (s.under policy) fs' p i calls)
      (inTurnLast s fs p i calls).single.outcome?
  | [], [], _, _, _, _ => .failed _
  | [f], [f'], i, calls, _, h => .after (h 0 f f' List.mem_cons_self rfl) fun _ _ => .settled _
  | f :: g :: rest, f' :: g' :: rest', i, calls, hlen, h => by
    refine .after (h 0 f f' List.mem_cons_self rfl) fun x hx => ?_
    refine replays_launchInTurn (g :: rest) (Nat.succ.inj hlen) fun j u u' hu hu' => ?_
    rw [show i + 1 + j = i + (j + 1) by omega] at hu ⊢
    refine h (j + 1) u u' ?_ hu'
    rw [startedInTurn, hx]
    exact List.mem_cons_of_mem _ hu

/-- Of the branches only the one that the test chooses matters. -/
theorem relaunches_conditional {t t' c c' a a' : Formula} (ht : Relaunches s policy t t' (p.child 0))
    (hc : ∀ x, (t.inTurn s (p.child 0)).result = .ok x → x.value.isTruthy → Relaunches s policy c c' (p.child 1))
    (ha : ∀ x, (t.inTurn s (p.child 0)).result = .ok x → ¬ x.value.isTruthy → Relaunches s policy a a' (p.child 2)) :
    Relaunches s policy (.conditional t c a) (.conditional t' c' a') p := by
  refine .after ht fun x hx => ?_
  by_cases htrue : x.value.isTruthy
  · simp only [if_pos htrue]
    exact .after (hc x hx htrue) fun _ _ => .settled _
  · simp only [if_neg htrue]
    exact .after (ha x hx htrue) fun _ _ => .settled _

/-- The right operand matters only if it is needed. -/
theorem relaunches_logical {op : String} {l l' r r' : Formula} (hl : Relaunches s policy l l' (p.child 0))
    (hr : ∀ x lo, (l.inTurn s (p.child 0)).result = .ok x → LogicalOperator.ofSymbol? op = some lo →
      lo.needsRight x.value.isTruthy → Relaunches s policy r r' (p.child 1)) :
    Relaunches s policy (.logical op l r) (.logical op l' r') p := by
  refine .after hl fun x hx => ?_
  cases ho : LogicalOperator.ofSymbol? op with
  | none => exact .failed _
  | some lo =>
    by_cases hn : lo.needsRight x.value.isTruthy
    · simp only [if_pos hn]
      exact .after (hr x lo hx ho hn) fun _ _ => .settled _
    · simp only [if_neg hn]
      exact .settled _

/-- The key of a member is a part only if it is computed. -/
theorem replays_key {computed : Bool} {property property' : Formula} {q : Place}
    (hp : computed → Relaunches s policy property property' q) (hsame : computed = false → property' = property) :
    Replays (launchKey s computed property q) (launchKey (s.under policy) computed property' q)
      (keyInTurn s computed property q).single.outcome? := by
  cases computed with
  | true => exact hp rfl
  | false =>
    rw [hsame rfl]
    simp only [launchKey, keyInTurn]
    cases property.name? with
    | some n => exact .settled _
    | none => exact .failed _

theorem relaunches_member {object object' property property' : Formula} {computed : Bool}
    (ho : Relaunches s policy object object' (p.child 0))
    (hp : computed → Relaunches s policy property property' (p.child 1))
    (hsame : computed = false → property' = property)
    (hread : ∀ a key, (object.inTurn s (p.child 0)).result = .ok a →
      (keyInTurn s computed property (p.child 1)).result = .ok key →
        reading (s.under policy) a key = reading s a key) :
    Relaunches s policy (.member object property computed) (.member object' property' computed) p := by
  rw [Relaunches, launch_member, launch_member, inTurn_member]
  refine .both ho (replays_key hp hsame) fun a key ha hk => ?_
  rw [hread a key ha hk]
  exact replays_reading s a key

theorem relaunches_unary {op : String} {a a' : Formula} {before : Bool} (h : Relaunches s policy a a' (p.child 0)) :
    Relaunches s policy (.unary op a before) (.unary op a' before) p :=
  .after h fun _ _ => replays_ofResult _

end Formula

end GatedFormula
