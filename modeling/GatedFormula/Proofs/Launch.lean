/-
  The activity of a formula goes along with its plain evaluation.
  - `Invocation.Arises`: a call is that of a call node, by the results of its callee and its arguments.
  - `Formula.follows_launch`: the activity that a formula is launched as does what `Formula.inTurn` says.
  - So an evaluation has the value of the plain one by the same calls, or fails with it
    (`evaluate_agrees`), and every call it makes arises from a node (`arises_of_mem`). If no function
    takes time, or nothing is called, it is the plain evaluation (`evaluate_prompt`, `evaluate_of_no_calls`).
-/
import GatedFormula.Proofs.Node
import GatedFormula.Proofs.Passes

namespace GatedFormula

/-- A call arises in a formula: the node at its place is a call, whose callee gives the function and what it
is bound to, and whose arguments give the arguments. -/
inductive Invocation.Arises (s : Setting) (f : Formula) (origin : Place) : Invocation → Prop
  | call {callee : Formula} {arguments : List Formula} {p : Place} {o : Outcome} {g : Function}
      {receiver : Option Value} {outs : List Outcome}
      (hn : f.HasNode origin (.call callee arguments) p)
      (hc : (callee.inTurn s (p.child 0)).result = .ok o) (hg : o.value = .function g receiver)
      (ha : (Formula.inTurnEach s arguments p 1).result = .ok outs) :
      Arises s f origin ⟨p, g, receiver, outs.map Outcome.value⟩

/-- Some function takes time. -/
def Setting.Slow (s : Setting) : Prop := ∃ f, s.host.timeOf f ≠ 0

namespace Traced

/-- A trace whose outcome is taken as a list. -/
def single (t : Traced Outcome) : Traced (List Outcome) := (fun o => [o]) <$> t

theorem single_told (cs : List Invocation) (t : Traced Outcome) :
    (t.told cs).single = t.single.told cs := told_bind cs t _

theorem single_bind (t : Traced Outcome) (k : Outcome → Traced Outcome) :
    (t >>= k).single = (t.single >>= fun outs => (k (outs.getD 0 default)).single) := by
  rw [single, single, map_bind, bind_map_left]
  rfl

theorem single_bind_bind (t u : Traced Outcome) (k : Outcome → Outcome → Traced Outcome) :
    (t >>= fun a => u >>= fun b => k a b).single =
      (t.single.beside (u.single.beside (pure [])) >>= fun outs =>
        (k (outs.getD 0 default) (outs.getD 1 default)).single) := by
  simp only [single, beside, map_bind, bind_map_left, bind_assoc, pure_bind]
  rfl

theorem ok_of_single {t : Traced Outcome} {outs : List Outcome} (h : t.single.result = .ok outs) :
    ∃ o, t.result = .ok o ∧ outs = [o] := by
  rw [single, result_map] at h
  cases ht : t.result with
  | ok o => rw [ht] at h; cases h; exact ⟨o, rfl, rfl⟩
  | error f => rw [ht] at h; cases h

/-- The outcomes of a first part and of those beside it. -/
theorem ok_of_parts {t : Traced Outcome} {u : Traced (List Outcome)} {parts : List Outcome}
    (h : (t.single.beside (u.beside (pure []))).result = .ok parts) :
    ∃ o outs, t.result = .ok o ∧ u.result = .ok outs ∧ parts = o :: outs := by
  obtain ⟨_, _, ht, hr, rfl⟩ := ok_of_beside h
  obtain ⟨outs, _, hu, hn, rfl⟩ := ok_of_beside hr
  obtain ⟨o, ho, rfl⟩ := ok_of_single ht
  obtain rfl := Except.ok.inj hn
  exact ⟨o, outs, ho, hu, by rw [List.append_nil, List.singleton_append]⟩

theorem ok_of_pair {t u : Traced Outcome} {outs : List Outcome}
    (h : (t.single.beside (u.single.beside (pure []))).result = .ok outs) :
    ∃ a b, t.result = .ok a ∧ u.result = .ok b ∧ outs = [a, b] := by
  obtain ⟨a, _, ha, hu, rfl⟩ := ok_of_parts h
  obtain ⟨b, hb, rfl⟩ := ok_of_single hu
  exact ⟨a, b, ha, hb, rfl⟩

end Traced

namespace Formula

/-! ## Calls and members in plain evaluation -/

/-- A call in plain evaluation, with the outcomes of the callee and the arguments. -/
def callInTurn (s : Setting) (site : Place) (o : Outcome) (outs : List Outcome) : Traced Outcome :=
  match o.value with
  | .function g receiver =>
    (Traced.ofResult ((s.host.invoke g receiver (outs.map Outcome.value) site).map fun v =>
      ⟨v, (Outcome.node v (o :: outs)).nodes, 1 + (Outcome.node v (o :: outs)).calls⟩)).told
        [⟨site, g, receiver, outs.map Outcome.value⟩]
  | v => .ofResult (.error (.notCallable v.typeName))

theorem inTurn_call (s : Setting) (callee : Formula) (arguments : List Formula) (p : Place) :
    inTurn s (.call callee arguments) p =
      (inTurn s callee (p.child 0) >>= fun o =>
        inTurnEach s arguments p 1 >>= fun outs => callInTurn s p o outs) := rfl

theorem single_inTurn_call (s : Setting) (callee : Formula) (arguments : List Formula) (p : Place) :
    (inTurn s (.call callee arguments) p).single =
      ((inTurn s callee (p.child 0)).single.beside ((inTurnEach s arguments p 1).beside (pure [])) >>= fun parts =>
        (callInTurn s p (parts.getD 0 default) (parts.drop 1)).single) := by
  simp only [inTurn_call, Traced.single, Traced.beside, map_bind, bind_map_left, bind_assoc, pure_bind,
    List.append_nil]
  rfl

/-- The key of a member in plain evaluation. -/
def keyInTurn (s : Setting) (computed : Bool) (property : Formula) (p : Place) : Traced Outcome :=
  if computed then inTurn s property p
  else match property.name? with
    | some n => pure (.leaf (.text n))
    | none => .ofResult (.error (.badNode property.kind.tag))

theorem inTurn_member (s : Setting) (object property : Formula) (computed : Bool) (p : Place) :
    inTurn s (.member object property computed) p =
      (inTurn s object (p.child 0) >>= fun object =>
        keyInTurn s computed property (p.child 1) >>= fun key =>
          .ofResult ((s.read object.value key.value).map fun v => .node v [object, key])) := by
  cases computed with
  | true => rfl
  | false =>
    simp only [inTurn, keyInTurn]
    cases property.name? <;> rfl

/-- The activity of the key of a member. -/
def launchKey (s : Setting) (computed : Bool) (property : Formula) (p : Place) : Activity :=
  if computed then launch s property p
  else match property.name? with
    | some n => .settled [.leaf (.text n)]
    | none => .failed (.badNode property.kind.tag)

theorem launch_member (s : Setting) (object property : Formula) (computed : Bool) (p : Place) :
    launch s (.member object property computed) p =
      Activity.both (launch s object (p.child 0)) (launchKey s computed property (p.child 1))
        (Activity.reading s) := rfl

theorem inTurnEach_cons (s : Setting) (f : Formula) (rest : List Formula) (p : Place) (i : Nat) :
    inTurnEach s (f :: rest) p i =
      (inTurn s f (p.child i)).single.beside (inTurnEach s rest p (i + 1)) := by
  simp only [inTurnEach, Traced.single, Traced.beside, bind_map_left]
  rfl

theorem inTurnLast_cons (s : Setting) (f g : Formula) (rest : List Formula) (p : Place) (i calls : Nat) :
    inTurnLast s (f :: g :: rest) p i calls =
      (inTurn s f (p.child i) >>= fun o => inTurnLast s (g :: rest) p (i + 1) (calls + o.calls)) := rfl

end Formula

namespace Activity

open Formula Traced

variable {P : Event → Prop} {Late : Prop}

theorem follows_ofResult (r : Except Fault Outcome) : Follows P Late (ofResult r) (Traced.ofResult r).single := by
  cases r with
  | ok o => exact .settled [o]
  | error f => exact .failed f

theorem Follows.after {first : Activity} {next : Outcome → Activity} {t : Traced Outcome}
    {k : Outcome → Traced Outcome} (h : Follows P Late first t.single)
    (hk : ∀ o, t.result = .ok o → Follows P Late (next o) (k o).single) :
    Follows P Late (after first next) (t >>= k).single := by
  rw [single_bind]
  refine .sequel h fun _ outs hs => ?_
  obtain ⟨o, ho, rfl⟩ := ok_of_single hs
  exact hk o ho

theorem Follows.both {l r : Activity} {next : Outcome → Outcome → Activity} {t u : Traced Outcome}
    {k : Outcome → Outcome → Traced Outcome} (hl : Follows P Late l t.single)
    (hr : Follows P Late r u.single)
    (hk : ∀ a b, t.result = .ok a → u.result = .ok b → Follows P Late (next a b) (k a b).single) :
    Follows P Late (both l r next) (t >>= fun a => u >>= fun b => k a b).single := by
  rw [single_bind_bind]
  refine .sequel (.joined (.cons hl (.cons hr .nil))) fun _ outs ho => ?_
  obtain ⟨a, b, ha, hb, rfl⟩ := ok_of_pair ho
  exact hk a b ha hb

theorem follows_reading {s : Setting} (hP : ∀ entry, P (.noted entry)) (object key : Outcome) :
    Follows P Late (reading s object key)
      (Traced.ofResult ((s.read object.value key.value).map fun v => .node v [object, key])).single := by
  unfold reading
  cases hr : s.read object.value key.value with
  | ok v => exact .settled _
  | error f =>
    simp only
    split
    · exact .telling (hP _) (.failed f)
    · exact .failed f

theorem follows_calling {s : Setting} {site : Place} {o : Outcome} {outs : List Outcome}
    (hP : ∀ f time, P (.completed f time))
    (hc : ∀ g receiver, o.value = .function g receiver →
      P (.invoked ⟨site, g, receiver, outs.map Outcome.value⟩)) (now : Nat) :
    Follows P s.Slow (calling s site now (o :: outs)) (callInTurn s site o outs).single := by
  simp only [calling, callInTurn, List.getD_cons_zero, List.drop_one, List.tail_cons]
  cases hv : o.value with
  | function g receiver =>
    have hr : Follows P s.Slow
        (completed s g receiver (outs.map Outcome.value) site (o :: outs) (now + s.host.timeOf g))
        (Traced.ofResult ((s.host.invoke g receiver (outs.map Outcome.value) site).map fun v =>
          ⟨v, (Outcome.node v (o :: outs)).nodes, 1 + (Outcome.node v (o :: outs)).calls⟩)).single :=
      .telling (hP _ _) (follows_ofResult _)
    dsimp only
    rw [single_told]
    refine .telling (hc g receiver hv) ?_
    split
    · exact hr
    · exact .waiting ⟨g, ‹_›⟩ hr
  | _ => exact .failed _

end Activity

namespace Formula

open Activity Traced

/-! ## Nodes that follow plain evaluation if their parts do -/

section
variable {P : Event → Prop} {Late : Prop} {s : Setting} {p : Place}

theorem follows_key {computed : Bool} {property : Formula}
    (h : computed → Follows P Late (launch s property p) (inTurn s property p).single) :
    Follows P Late (launchKey s computed property p) (keyInTurn s computed property p).single := by
  cases computed with
  | true => exact h rfl
  | false =>
    simp only [launchKey, keyInTurn]
    cases property.name? with
    | some n => exact .settled _
    | none => exact .failed _

theorem follows_call {callee : Formula} {arguments : List Formula} (hP : ∀ f time, P (.completed f time))
    (hc : Follows P s.Slow (launch s callee (p.child 0)) (inTurn s callee (p.child 0)).single)
    (ha : FollowsAll P s.Slow (launchAll s arguments p 1) (inTurnEach s arguments p 1))
    (hi : ∀ o outs g receiver, (inTurn s callee (p.child 0)).result = .ok o → o.value = .function g receiver →
      (inTurnEach s arguments p 1).result = .ok outs → P (.invoked ⟨p, g, receiver, outs.map Outcome.value⟩)) :
    Follows P s.Slow (launch s (.call callee arguments) p) (inTurn s (.call callee arguments) p).single := by
  have hj : FollowsAll P s.Slow
      [launch s callee (p.child 0), .joined (.ofSize arguments.length) (launchAll s arguments p 1)]
      ((inTurn s callee (p.child 0)).single.beside ((inTurnEach s arguments p 1).beside (pure []))) :=
    .cons hc (.cons (.joined ha) .nil)
  rw [single_inTurn_call]
  refine .sequel (.joined hj) fun now parts hp => ?_
  obtain ⟨o, outs, ho, houts, rfl⟩ := ok_of_parts hp
  exact follows_calling hP (fun g receiver hg => hi o outs g receiver ho hg houts) now

theorem follows_conditional {t c a : Formula}
    (ht : Follows P Late (launch s t (p.child 0)) (inTurn s t (p.child 0)).single)
    (hc : Follows P Late (launch s c (p.child 1)) (inTurn s c (p.child 1)).single)
    (ha : Follows P Late (launch s a (p.child 2)) (inTurn s a (p.child 2)).single) :
    Follows P Late (launch s (.conditional t c a) p) (inTurn s (.conditional t c a) p).single := by
  refine .after ht fun x _ => ?_
  by_cases hx : x.value.isTruthy
  · simp only [if_pos hx]
    exact .after hc fun _ _ => .settled _
  · simp only [if_neg hx]
    exact .after ha fun _ _ => .settled _

theorem follows_logical {op : String} {l r : Formula}
    (hl : Follows P Late (launch s l (p.child 0)) (inTurn s l (p.child 0)).single)
    (hr : Follows P Late (launch s r (p.child 1)) (inTurn s r (p.child 1)).single) :
    Follows P Late (launch s (.logical op l r) p) (inTurn s (.logical op l r) p).single := by
  refine .after hl fun x _ => ?_
  cases LogicalOperator.ofSymbol? op with
  | none => exact .failed _
  | some o =>
    by_cases hn : o.needsRight x.value.isTruthy
    · simp only [if_pos hn]
      exact .after hr fun _ _ => .settled _
    · simp only [if_neg hn]
      exact .settled _

end

/-! ## Formulas -/

variable {root : Formula} {origin : Place}

/-- What is told while a formula is evaluated: every call arises in it. -/
def Told (s : Setting) (f : Formula) (origin : Place) (e : Event) : Prop :=
  ∀ c ∈ e.call?, c.Arises s f origin

theorem told_noted (s : Setting) (f : Formula) (origin : Place) (entry : Entry) :
    Told s f origin (.noted entry) := by
  simp [Told, Event.call?]

theorem told_completed (s : Setting) (f : Formula) (origin : Place) (g : Function) (time : Nat) :
    Told s f origin (.completed g time) := by
  simp [Told, Event.call?]

theorem told_invoked {s : Setting} {callee : Formula} {arguments : List Formula} {p : Place} {o : Outcome}
    {g : Function} {receiver : Option Value} {outs : List Outcome} (h : root.HasNode origin (.call callee arguments) p)
    (hc : (inTurn s callee (p.child 0)).result = .ok o) (hg : o.value = .function g receiver)
    (ha : (inTurnEach s arguments p 1).result = .ok outs) :
    Told s root origin (.invoked ⟨p, g, receiver, outs.map Outcome.value⟩) := by
  rintro _ ⟨⟩
  exact .call h hc hg ha

mutual
/-- **The activity of a formula does what plain evaluation says.** -/
theorem follows_launch (s : Setting) : (f : Formula) → {p : Place} → root.HasNode origin f p →
    Follows (Told s root origin) s.Slow (launch s f p) (inTurn s f p).single
  | .array elements, p, h => by
    have hs := followsAll_launchAll s elements (i := 0) fun j g hg => by
      rw [Nat.zero_add]
      exact h.child hg
    rw [inTurn, single, map_bind]
    exact .sequel (.joined hs) fun _ outs _ => .settled _
  | .binary op l r, p, h =>
    .both (follows_launch s l (h.child rfl)) (follows_launch s r (h.child rfl)) fun _ _ _ _ =>
      follows_ofResult _
  | .call callee arguments, p, h => by
    have hs := followsAll_launchAll s arguments (i := 1) fun j g hg => by
      rw [Nat.add_comm]
      exact h.child (i := j + 1) hg
    exact follows_call (told_completed s root origin) (follows_launch s callee (h.child rfl)) hs
      fun _ _ _ _ ho hg ha => told_invoked h ho hg ha
  | .sequence body, p, h =>
    follows_launchInTurn s body fun j g hg => by
      rw [Nat.zero_add]
      exact h.child hg
  | .conditional t c a, p, h =>
    follows_conditional (follows_launch s t (h.child rfl)) (follows_launch s c (h.child rfl))
      (follows_launch s a (h.child rfl))
  | .name n, p, _ => by
    simp only [launch, inTurn]
    cases s.context.get? n with
    | some v => exact .settled _
    | none => exact .failed _
  | .literal .., _, _ => .settled _
  | .logical op l r, p, h => follows_logical (follows_launch s l (h.child rfl)) (follows_launch s r (h.child rfl))
  | .member object property computed, p, h => by
    rw [launch_member, inTurn_member]
    refine .both (follows_launch s object (h.child rfl)) (follows_key fun hk => ?_)
      fun a b _ _ => follows_reading (told_noted s root origin) a b
    subst hk
    exact follows_launch s property (h.child rfl)
  | .self, _, _ => .settled _
  | .unary op a _, p, h => .after (follows_launch s a (h.child rfl)) fun _ _ => follows_ofResult _

/-- So do the activities of formulas side by side. -/
theorem followsAll_launchAll (s : Setting) : (fs : List Formula) → {p : Place} → {i : Nat} →
    (∀ j g, fs[j]? = some g → root.HasNode origin g (p.child (i + j))) →
      FollowsAll (Told s root origin) s.Slow (launchAll s fs p i) (inTurnEach s fs p i)
  | [], _, _, _ => .nil
  | f :: rest, p, i, h => by
    have hr := followsAll_launchAll s rest (i := i + 1) fun j g hg => by
      rw [show i + 1 + j = i + (j + 1) by omega]
      exact h (j + 1) g hg
    rw [inTurnEach_cons]
    exact .cons (follows_launch s f (h 0 f rfl)) hr

/-- So does the activity of formulas one after the other. -/
theorem follows_launchInTurn (s : Setting) : (fs : List Formula) → {p : Place} → {i calls : Nat} →
    (∀ j g, fs[j]? = some g → root.HasNode origin g (p.child (i + j))) →
      Follows (Told s root origin) s.Slow (launchInTurn s fs p i calls) (inTurnLast s fs p i calls).single
  | [], _, _, _, _ => .failed _
  | [f], p, i, calls, h =>
    .after (follows_launch s f (h 0 f rfl)) fun _ _ => .settled _
  | f :: g :: rest, p, i, calls, h =>
    .after (follows_launch s f (h 0 f rfl)) fun _ _ => follows_launchInTurn s (g :: rest) fun j g' hg => by
      rw [show i + 1 + j = i + (j + 1) by omega]
      exact h (j + 1) g' hg
end

end Formula

/-! ## Evaluations -/

open Activity Formula Traced

variable (s : Setting) (f : Formula) (origin : Place)

/-- An evaluation is a run of the activity that the formula is launched as. -/
theorem exists_ending : ∃ ending, ((f.launch s origin).run f.callCount 0).2 = some ending ∧
    (evaluate s f origin).result = (fun outs => outs.getD 0 default) <$> ending.result ∧
    (evaluate s f origin).time = ending.time ∧
    (evaluate s f origin).invocations = callsIn ((f.launch s origin).run f.callCount 0).1 := by
  refine ⟨_, (Option.some_get (run_isSome (f.within_launch s origin))).symm, rfl, rfl, ?_⟩
  simp only [evaluate, Evaluation.invocations, List.filterMap_append, List.filterMap_cons, Event.call?,
    List.filterMap_nil, List.append_nil]
  rfl

theorem getD_single (t : Traced Outcome) : (fun outs => outs.getD 0 default) <$> t.single = t := by
  rw [single, ← comp_map]
  exact id_map t

/-- **An evaluation has the value of the plain one by the same calls, or both fail.** -/
theorem evaluate_agrees : (f.inTurn s origin).Agrees
    ⟨(evaluate s f origin).invocations, (evaluate s f origin).result⟩ := by
  obtain ⟨ending, he, hr, -, hi⟩ := exists_ending s f origin
  obtain ⟨ha, -⟩ := follows_run (follows_launch s f (.root f origin)) he
  have hm := ha.map fun outs => outs.getD 0 default
  rw [getD_single, map_eq] at hm
  rw [hi, hr]
  simpa only [told, List.append_nil] using hm

theorem evaluate_of_inTurn {o : Outcome} (h : f.inTurn s origin = ⟨[], .ok o⟩) :
    (evaluate s f origin).result = .ok o ∧ (evaluate s f origin).invocations = [] := by
  have ha := evaluate_agrees s f origin
  rw [h] at ha
  exact ⟨ha.ok_iff.1 rfl, (ha.perm rfl).symm.eq_nil⟩

/-- **Every call that an evaluation makes arises from a node.** -/
theorem arises_of_mem {c : Invocation} (hc : c ∈ (evaluate s f origin).invocations) :
    c.Arises s f origin := by
  obtain ⟨ending, he, -, -, hi⟩ := exists_ending s f origin
  obtain ⟨-, hP⟩ := follows_run (follows_launch s f (.root f origin)) he
  rw [hi, callsIn, List.mem_filterMap] at hc
  obtain ⟨e, hm, hc⟩ := hc
  exact hP e hm c hc

/-- An evaluation that never waits is the plain one. -/
theorem evaluate_of_follows {P : Event → Prop} {Late : Prop} (hL : ¬ Late)
    (h : Follows P Late (f.launch s origin) (f.inTurn s origin).single) :
    (evaluate s f origin).result = (f.inTurn s origin).result ∧
      (evaluate s f origin).invocations = (f.inTurn s origin).calls ∧ (evaluate s f origin).time = 0 := by
  obtain ⟨ending, he, hr, ht, hi⟩ := exists_ending s f origin
  obtain ⟨hc, hp⟩ := prompt_advance hL 0 _ h
  rw [run_of_result _ hp] at he hi
  obtain rfl := Option.some.inj he
  refine ⟨?_, ?_, ht⟩
  · rw [hr, ← result_map, getD_single]
  · rw [hi, hc, single, calls_map]

/-- **If no function takes time, an evaluation is the plain one.** -/
theorem evaluate_prompt (h : ¬ s.Slow) : (evaluate s f origin).result = (f.inTurn s origin).result ∧
    (evaluate s f origin).invocations = (f.inTurn s origin).calls ∧ (evaluate s f origin).time = 0 :=
  evaluate_of_follows s f origin h (follows_launch s f (.root f origin))

/-- **A formula without calls is evaluated plainly**, whatever time functions take. -/
theorem evaluate_of_no_calls (h : f.callCount = 0) :
    (evaluate s f origin).result = (f.inTurn s origin).result ∧
      (evaluate s f origin).invocations = (f.inTurn s origin).calls ∧ (evaluate s f origin).time = 0 := by
  have hw : Within (f.launch s origin) 0 := h ▸ f.within_launch s origin
  exact evaluate_of_follows s f origin not_false (.of_within hw (follows_launch s f (.root f origin)))

/-- A small setting: a record that holds a text and a function of the host, which gives its argument back. -/
def Setting.sample : Setting where
  context := ⟨.root 0, ⟨[("box", .record (.root 1)
    [("label", .text "x"), ("echo", .function (.host (.root 2) "echo") none)])], by decide⟩⟩
  policy := some ⟨[Check.ownMember]⟩
  host := ⟨fun _ _ arguments _ => .ok (arguments.headD .undefined), fun _ => 0, fun _ => 0⟩

end GatedFormula
