/-
  Evaluation in virtual time.
  - `Formula.ending_launch`: the activity of a formula ends as `Formula.timeline` says by the times of its
    parts.
  - `evaluate_eq_timeline`: so does an evaluation, whatever time the functions of the host take.
-/
import GatedFormula.Proofs.Concurrency
import GatedFormula.Proofs.Ending

namespace GatedFormula

/-- A timed outcome that is taken as a list. -/
def Timed.single (x : Timed Outcome) : Timed (List Outcome) := x.map fun o => [o]

/-- A call that starts at a time, with the outcomes of the callee and the arguments. -/
def Formula.callFrom (s : Setting) (site : Place) (start : Nat) (o : Outcome) (outs : List Outcome) :
    Timed Outcome :=
  match o.value with
  | .function g receiver =>
    ⟨start + s.host.timeOf g, (s.host.invoke g receiver (outs.map Outcome.value) site).map fun v =>
      ⟨v, (Outcome.node v (o :: outs)).nodes, 1 + (Outcome.node v (o :: outs)).calls⟩⟩
  | v => ⟨start, .error (.notCallable v.typeName)⟩

theorem Formula.timeline_call (s : Setting) (callee : Formula) (arguments : List Formula) (p : Place)
    (start : Nat) : timeline s (.call callee arguments) p start =
      (Timed.pair (timeline s callee (p.child 0) start)
        (Timed.join (.ofSize arguments.length) start (timelines s arguments p 1 start))).after
          fun now (o, outs) => callFrom s p now o outs := by
  rfl

/-- The key of a member that starts at a time. -/
def Formula.keyFrom (s : Setting) (computed : Bool) (property : Formula) (p : Place) (start : Nat) :
    Timed Outcome :=
  if computed then timeline s property p start
  else match property.name? with
    | some n => ⟨start, .ok (.leaf (.text n))⟩
    | none => ⟨start, .error (.badNode property.kind.tag)⟩

theorem Formula.timeline_member (s : Setting) (object property : Formula) (computed : Bool) (p : Place)
    (start : Nat) : timeline s (.member object property computed) p start =
      (Timed.pair (timeline s object (p.child 0) start) (keyFrom s computed property (p.child 1) start)).after
        fun now (object, key) =>
          ⟨now, (s.read object.value key.value).map fun v => .node v [object, key]⟩ := by
  cases computed with
  | true => rfl
  | false => cases hn : property.name? <;> simp [timeline, keyFrom, hn]

namespace Activity

open Timed

variable {now : Nat}

/-! ## Endings of what formulas are launched as -/

theorem ending_ofResult (now : Nat) (r : Except Fault Outcome) :
    ending now (ofResult r) = Timed.single ⟨now, r⟩ := by
  cases r <;> rfl

theorem ending_after {first : Activity} {x : Timed Outcome} (h : ending now first = x.single)
    (next : Outcome → Activity) :
    ending now (after first next) = x.after fun t o => ending t (next o) := by
  rw [Activity.after, ending, h, single, after_map]
  rfl

theorem ending_both {l r : Activity} {x y : Timed Outcome} (hl : ending now l = x.single)
    (hr : ending now r = y.single) (next : Outcome → Outcome → Activity) :
    ending now (both l r next) = (pair x y).after fun t (a, b) => ending t (next a b) := by
  have hle : now ≤ y.single.time := hr ▸ le_ending now r
  rw [both, ending, ending, endings, endings, endings, hl, hr, join, joinEager_two hle, single, single,
    pair_map, map_map, map_map, after_map]
  rfl

/-- The outcomes of formulas side by side, when each ends as its timed outcome says. -/
theorem ending_joined {joint : Joint} {members : List Activity} {xs : List (Timed Outcome)}
    (h : endings now members = xs.map single) :
    ending now (.joined joint members) = join joint now xs := by
  have hflat : (fun os : List Outcome => (os.map fun o => [o]).flatten) = id := by
    funext os
    induction os with
    | nil => rfl
    | cons o os ih => simpa using ih
  have hid : (join joint now xs).map id = join joint now xs := by
    obtain ⟨t, _ | os⟩ := join joint now xs <;> rfl
  have hm : xs.map single = xs.map (Timed.map fun o => [o]) := rfl
  rw [ending, h, hm, join_map, map_map, hflat, hid]

/-- A call ends when the time of its function has passed. -/
theorem ending_calling (s : Setting) (site : Place) (now : Nat) (o : Outcome) (outs : List Outcome) :
    ending now (calling s site now (o :: outs)) = (Formula.callFrom s site now o outs).single := by
  have hargs : ((o :: outs).drop 1).map Outcome.value = outs.map Outcome.value := rfl
  unfold calling Formula.callFrom
  rw [List.getD_cons_zero, hargs]
  cases o.value with
  | function g receiver =>
    by_cases ht : s.host.timeOf g = 0
    · simp only [ending, ht, if_true]
      exact ending_ofResult now _
    · simp only [ending, ht, if_false, Nat.max_eq_right (Nat.le_add_right ..)]
      exact ending_ofResult _ _
  | _ => rfl

theorem ending_reading (s : Setting) (object key : Outcome) (now : Nat) :
    ending now (reading s object key) =
      Timed.single ⟨now, (s.read object.value key.value).map fun v => .node v [object, key]⟩ := by
  unfold reading
  cases s.read object.value key.value with
  | ok v => rfl
  | error f => cases s.denied? object.value key.value <;> rfl

end Activity

namespace Formula

open Activity Timed

/-! ## Nodes that end as their timelines say if their parts do -/

/-- The activity of the formula at a place ends as its timeline says, whenever it starts. -/
def KeepsTime (s : Setting) (f : Formula) (p : Place) : Prop :=
  ∀ now, ending now (launch s f p) = (timeline s f p now).single

section
variable {s : Setting} {p : Place}

theorem ending_key {computed : Bool} {property : Formula} (h : computed → KeepsTime s property p) (now : Nat) :
    ending now (launchKey s computed property p) = (keyFrom s computed property p now).single := by
  cases computed with
  | true => exact h rfl now
  | false =>
    simp only [launchKey, keyFrom]
    cases property.name? <;> rfl

theorem keepsTime_call {callee : Formula} {arguments : List Formula} (hc : KeepsTime s callee (p.child 0))
    (ha : ∀ now, endings now (launchAll s arguments p 1) = (timelines s arguments p 1 now).map single) :
    KeepsTime s (.call callee arguments) p := by
  intro now
  have hargs : ending now (.joined (.ofSize arguments.length) (launchAll s arguments p 1)) = _ :=
    ending_joined (ha now)
  have hle := le_ending now (.joined (.ofSize arguments.length) (launchAll s arguments p 1))
  rw [hargs] at hle
  rw [launch, ending, ending, endings, endings, endings, hc now, hargs, join, joinEager_two hle, single,
    pair_map_left, map_map, map_map, after_map, timeline_call, single, map_after]
  congr 1
  funext t x
  obtain ⟨o, outs⟩ := x
  have hparts : [[o], outs].flatten = o :: outs := by simp
  exact hparts ▸ ending_calling s p t o outs

theorem keepsTime_conditional {t c a : Formula} (ht : KeepsTime s t (p.child 0)) (hc : KeepsTime s c (p.child 1))
    (ha : KeepsTime s a (p.child 2)) : KeepsTime s (.conditional t c a) p := by
  intro now
  rw [launch, ending_after (ht now), timeline, single, map_after]
  congr 1
  funext u o
  by_cases ho : o.value.isTruthy
  · rw [if_pos ho, if_pos ho, ending_after (hc u), map_map]
    exact after_ok _ _
  · rw [if_neg ho, if_neg ho, ending_after (ha u), map_map]
    exact after_ok _ _

theorem keepsTime_logical {op : String} {l r : Formula} (hl : KeepsTime s l (p.child 0))
    (hr : KeepsTime s r (p.child 1)) : KeepsTime s (.logical op l r) p := by
  intro now
  rw [launch, ending_after (hl now), timeline, single, map_after]
  congr 1
  funext u o
  cases LogicalOperator.ofSymbol? op with
  | none => rfl
  | some op =>
    by_cases hn : op.needsRight o.value.isTruthy
    · simp only [if_pos hn]
      rw [ending_after (hr u), map_map]
      exact after_ok _ _
    · simp only [if_neg hn]
      rfl

end

mutual
/-- **The activity of a formula ends as its timeline says.** -/
theorem ending_launch (s : Setting) : (f : Formula) → (p : Place) → KeepsTime s f p
  | .array elements, p => fun now => by
    have hs := endings_launchAll s elements p 0 now
    rw [launch, ending, ending_joined hs, timeline, single, map_map]
    exact after_ok _ _
  | .binary op l r, p => fun now => by
    rw [launch, ending_both (ending_launch s l _ now) (ending_launch s r _ now), timeline, single, map_after]
    congr 1
    funext t ⟨a, b⟩
    exact ending_ofResult t _
  | .call callee arguments, p =>
    keepsTime_call (ending_launch s callee _) fun now => endings_launchAll s arguments p 1 now
  | .sequence body, p => fun now => ending_launchInTurn s body p 0 0 now
  | .conditional t c a, p =>
    keepsTime_conditional (ending_launch s t _) (ending_launch s c _) (ending_launch s a _)
  | .name n, p => fun now => by
    rw [launch, timeline]
    cases s.context.get? n <;> rfl
  | .literal .., _ => fun _ => rfl
  | .logical op l r, p => keepsTime_logical (ending_launch s l _) (ending_launch s r _)
  | .member object property computed, p => fun now => by
    rw [launch_member, ending_both (ending_launch s object _ now)
      (ending_key (fun _ => ending_launch s property _) now), timeline_member, single, map_after]
    congr 1
    funext t ⟨a, b⟩
    exact ending_reading s a b t
  | .self, _ => fun _ => rfl
  | .unary op a _, p => fun now => by
    rw [launch, ending_after (ending_launch s a _ now), timeline, single, map_after]
    congr 1
    funext t o
    exact ending_ofResult t _

theorem endings_launchAll (s : Setting) : (fs : List Formula) → (p : Place) → (i now : Nat) →
    endings now (launchAll s fs p i) = (timelines s fs p i now).map single
  | [], _, _, _ => rfl
  | f :: rest, p, i, now => by
    rw [launchAll, endings, ending_launch s f, endings_launchAll s rest, timelines, List.map_cons]

theorem ending_launchInTurn (s : Setting) : (fs : List Formula) → (p : Place) → (i calls now : Nat) →
    ending now (launchInTurn s fs p i calls) = (timelineInTurn s fs p i calls now).single
  | [], _, _, _, _ => rfl
  | [f], p, i, calls, now => by
    rw [launchInTurn, ending_after (ending_launch s f _ now), timelineInTurn, single, map_map]
    exact after_ok _ _
  | f :: g :: rest, p, i, calls, now => by
    simp only [launchInTurn, timelineInTurn]
    rw [ending_after (ending_launch s f _ now), single, map_after]
    congr 1
    funext t o
    exact ending_launchInTurn s (g :: rest) p (i + 1) _ t
end

end Formula

theorem evaluate_timed (s : Setting) (f : Formula) (origin : Place) :
    (⟨(evaluate s f origin).time, (evaluate s f origin).result⟩ : Timed Outcome) =
      f.timeline s origin 0 := by
  obtain ⟨e, he, hr, ht, -⟩ := exists_ending s f origin
  have hend : e = (f.timeline s origin 0).single := by
    rw [Activity.run_eq_ending he, Formula.ending_launch]
  rw [hr, ht, hend]
  obtain ⟨t, _ | o⟩ := f.timeline s origin 0 <;> rfl

end GatedFormula
