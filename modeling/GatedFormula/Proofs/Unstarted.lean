/-
  What is never started has no influence.
  - `Formula.bare` is a node without its parts. `Formula.SameNode` says of two nodes that they have the same one,
    kind by kind.
  - `Formula.SameStarted` relates a formula to one that is the same in all that the evaluation of the first one
    starts: the other parts may be any formulas.
  - `Formula.RunsAlike` adds to that another policy, under which the members that are visited are read alike. Then
    one evaluation replays the other (`relaunches`, `evaluate_of_runsAlike`).
  Main statement: `evaluate_of_sameStarted`.
-/
import GatedFormula.Proofs.Relaunch
import GatedFormula.Proofs.Visits

namespace GatedFormula

namespace Formula

/-- A node with `self` for each of its parts. The property of a member that is not computed is no part. -/
def bare : Formula → Formula
  | .array elements => .array (elements.map fun _ => .self)
  | .binary op _ _ => .binary op .self .self
  | .call _ arguments => .call .self (arguments.map fun _ => .self)
  | .sequence body => .sequence (body.map fun _ => .self)
  | .conditional _ _ _ => .conditional .self .self .self
  | .name n => .name n
  | .literal v raw => .literal v raw
  | .logical op _ _ => .logical op .self .self
  | .member _ property computed => .member .self (if computed then .self else property) computed
  | .self => .self
  | .unary op _ before => .unary op .self before

/-- The formula at a place and another one are the same node, and the parts that the evaluation of the first one
starts are the same in this sense. A branch that the test does not choose or that the test does not get to, a right
operand that is not needed or that is not got to, and what comes in a sequence after a failure, may be anything. -/
inductive SameStarted (s : Setting) : Formula → Formula → Place → Prop
  | node {f f' : Formula} {p : Place} (hbare : f'.bare = f.bare)
      (hstarted : ∀ (g g' : Formula) (i : Nat), (g, i) ∈ f.started s p → f'.parts[i]? = some g' →
        SameStarted s g g' (p.child i)) : SameStarted s f f' p

variable {s : Setting} {f f' : Formula} {p : Place}

/-- Two nodes that are the same but for their parts. -/
inductive SameNode : Formula → Formula → Prop
  | array {elements elements' : List Formula} (hlen : elements'.length = elements.length) :
      SameNode (.array elements) (.array elements')
  | binary (op : String) (l l' r r' : Formula) : SameNode (.binary op l r) (.binary op l' r')
  | call {callee callee' : Formula} {arguments arguments' : List Formula}
      (hlen : arguments'.length = arguments.length) : SameNode (.call callee arguments) (.call callee' arguments')
  | sequence {body body' : List Formula} (hlen : body'.length = body.length) :
      SameNode (.sequence body) (.sequence body')
  | conditional (t t' c c' a a' : Formula) : SameNode (.conditional t c a) (.conditional t' c' a')
  | name (n : String) : SameNode (.name n) (.name n)
  | literal (v : Literal) (raw : Option String) : SameNode (.literal v raw) (.literal v raw)
  | logical (op : String) (l l' r r' : Formula) : SameNode (.logical op l r) (.logical op l' r')
  | computed (object object' property property' : Formula) :
      SameNode (.member object property true) (.member object' property' true)
  | dotted (object object' property : Formula) :
      SameNode (.member object property false) (.member object' property false)
  | self : SameNode .self .self
  | unary (op : String) (a a' : Formula) (before : Bool) : SameNode (.unary op a before) (.unary op a' before)

theorem length_children_of_bare (h : f'.bare = f.bare) : f'.children.length = f.children.length := by
  have hb (g : Formula) : g.bare.children.length = g.children.length := by
    cases g <;> simp [bare, children]
  rw [← hb, h, hb]

theorem sameNode_of_bare (h : f'.bare = f.bare) : SameNode f f' := by
  have hlen := length_children_of_bare h
  cases f <;> cases f' <;> simp only [bare, reduceCtorEq, binary.injEq, name.injEq, literal.injEq, logical.injEq,
    member.injEq, unary.injEq, true_and, and_true] at h
  case array.array => exact .array hlen
  case binary.binary => exact h ▸ .binary ..
  case call.call => exact .call (Nat.succ.inj hlen)
  case sequence.sequence => exact .sequence hlen
  case conditional.conditional => exact .conditional ..
  case name.name => exact h ▸ .name _
  case literal.literal =>
    obtain ⟨rfl, rfl⟩ := h
    exact .literal ..
  case logical.logical => exact h ▸ .logical ..
  case member.member object property computed object' property' computed' =>
    obtain ⟨hp, rfl⟩ := h
    cases computed' with
    | true => exact .computed ..
    | false =>
      obtain rfl : property' = property := hp
      exact .dotted ..
  case self.self => exact .self
  case unary.unary =>
    obtain ⟨rfl, rfl⟩ := h
    exact .unary ..

theorem kind_of_bare (h : f'.bare = f.bare) : f'.kind = f.kind := by
  cases sameNode_of_bare h <;> rfl

namespace SameStarted

theorem bare_eq (h : SameStarted s f f' p) : f'.bare = f.bare := by
  obtain ⟨h, -⟩ := h
  exact h

theorem started {g g' : Formula} {i : Nat} (h : SameStarted s f f' p) (hg : (g, i) ∈ f.started s p)
    (hg' : f'.parts[i]? = some g') : SameStarted s g g' (p.child i) := by
  obtain ⟨-, h⟩ := h
  exact h g g' i hg hg'

theorem refl (f : Formula) : ∀ p : Place, SameStarted s f f p := by
  induction f using induction_parts with
  | h f ih =>
    intro p
    refine .node rfl fun g g' i hg hg' => ?_
    have hp := parts_of_started hg
    obtain rfl := Option.some.inj (hp.symm.trans hg')
    exact ih g (List.mem_of_getElem? hp) _

/-- **One part of a node may be another one** if it is never started, or the same in what its evaluation starts. -/
theorem of_part {i : Nat} (hbare : f'.bare = f.bare) (hrest : ∀ j, j ≠ i → f'.parts[j]? = f.parts[j]?)
    (h : ∀ g g', (g, i) ∈ f.started s p → f'.parts[i]? = some g' → SameStarted s g g' (p.child i)) :
    SameStarted s f f' p := by
  refine .node hbare fun g g' j hg hg' => ?_
  by_cases hj : j = i
  · subst hj
    exact h g g' hg hg'
  · rw [hrest j hj, parts_of_started hg] at hg'
    obtain rfl := Option.some.inj hg'
    exact refl g _

end SameStarted

/-- The formula at a place and another one are the same in what the evaluation of the first one starts, and all the
members that it visits are read alike under another policy. -/
structure RunsAlike (s : Setting) (policy : Option Policy) (f f' : Formula) (p : Place) : Prop where
  same : SameStarted s f f' p
  reads : ∀ {object property : Formula} {computed : Bool} {q : Place},
    f.Visits s p (.member object property computed) q →
      ∀ a key, (object.inTurn s (q.child 0)).result = .ok a →
        (keyInTurn s computed property (q.child 1)).result = .ok key →
          Activity.reading (s.under policy) a key = Activity.reading s a key

namespace RunsAlike

variable {policy : Option Policy}

theorem bare_eq (h : RunsAlike s policy f f' p) : f'.bare = f.bare := h.same.bare_eq

theorem started {g g' : Formula} {i : Nat} (h : RunsAlike s policy f f' p) (hg : (g, i) ∈ f.started s p)
    (hg' : f'.parts[i]? = some g') : RunsAlike s policy g g' (p.child i) :=
  ⟨h.same.started hg hg', fun hv => h.reads (.part hg hv)⟩

end RunsAlike

open Activity Traced

variable {policy : Option Policy}

/-- **The same node replays the first one** if the parts that the first one starts do, and a member is read alike. -/
theorem relaunches_node (hn : SameNode f f')
    (h : ∀ g g' i, (g, i) ∈ f.started s p → f'.parts[i]? = some g' → Relaunches s policy g g' (p.child i))
    (hread : ∀ {object property : Formula} {computed : Bool}, f = .member object property computed →
      ∀ a key, (object.inTurn s (p.child 0)).result = .ok a →
        (keyInTurn s computed property (p.child 1)).result = .ok key →
          reading (s.under policy) a key = reading s a key) : Relaunches s policy f f' p := by
  -- the parts of a node that starts all of them
  have part {g g' : Formula} {i : Nat} (hall : f.started s p = f.parts.zipIdx) (hg : f.parts[i]? = some g)
      (hg' : f'.parts[i]? = some g') : Relaunches s policy g g' (p.child i) :=
    h g g' i (hall ▸ List.mem_zipIdx_iff_getElem?.2 hg) hg'
  cases hn with
  | array hlen =>
    refine relaunches_array hlen (relaunchesAll _ hlen fun j g g' hg hg' => ?_)
    rw [Nat.zero_add]
    exact part rfl hg hg'
  | binary => exact relaunches_binary (part rfl rfl rfl) (part rfl rfl rfl)
  | call hlen =>
    refine relaunches_call hlen (part rfl rfl rfl) (relaunchesAll _ hlen fun j g g' hg hg' => ?_)
    rw [Nat.add_comm]
    exact part (i := j + 1) rfl hg hg'
  | sequence hlen =>
    refine replays_launchInTurn _ hlen fun j g g' hg hg' => ?_
    rw [Nat.zero_add] at hg ⊢
    exact h g g' j hg hg'
  | conditional t t' c c' a a' =>
    refine relaunches_conditional (h t t' 0 List.mem_cons_self rfl) (fun x hx htrue => ?_) fun x hx htrue => ?_
    · refine h c c' 1 ?_ rfl
      rw [started_consequent hx htrue]
      exact List.mem_cons_of_mem _ (List.mem_singleton_self _)
    · refine h a a' 2 ?_ rfl
      rw [started_alternate hx htrue]
      exact List.mem_cons_of_mem _ (List.mem_singleton_self _)
  | name n => exact relaunches_name n
  | literal => exact .settled _
  | logical op l l' r r' =>
    refine relaunches_logical (h l l' 0 List.mem_cons_self rfl) fun x lo hx ho hn => h r r' 1 ?_ rfl
    rw [started_right hx ho hn]
    exact List.mem_cons_of_mem _ (List.mem_singleton_self _)
  | computed =>
    exact relaunches_member (part rfl rfl rfl) (fun _ => part rfl rfl rfl) (absurd · Bool.false_ne_true.symm)
      (hread rfl)
  | dotted => exact relaunches_member (part rfl rfl rfl) (absurd · Bool.false_ne_true) (fun _ => rfl) (hread rfl)
  | self => exact .settled _
  | unary => exact relaunches_unary (part rfl rfl rfl)

/-- **A formula that runs alike replays the first one.** -/
theorem relaunches (f : Formula) : ∀ {f' : Formula} {p : Place}, RunsAlike s policy f f' p →
    Relaunches s policy f f' p := by
  induction f using induction_parts with
  | h f ih =>
    intro f' p h
    refine relaunches_node (sameNode_of_bare h.bare_eq) (fun g g' i hg hg' => ?_) fun he => ?_
    · exact ih g (List.mem_of_getElem? (parts_of_started hg)) (h.started hg hg')
    · subst he
      exact h.reads (.self _ _)

end Formula

/-- **Formulas that run alike have the same evaluation**, with all that happens on the way. -/
theorem evaluate_of_runsAlike {s : Setting} {policy : Option Policy} {f f' : Formula} {origin : Place}
    (h : f.RunsAlike s policy f' origin) : evaluate (s.under policy) f' origin = evaluate s f origin :=
  evaluate_of_replays (Formula.kind_of_bare h.bare_eq) (f.relaunches h)

/-- **What is never started has no influence.** With any formulas in the places of parts that its evaluation never
starts, a formula has the very same evaluation: the value with its counts or the fault, the time, and all that
happens on the way. -/
theorem evaluate_of_sameStarted {s : Setting} {f f' : Formula} {origin : Place}
    (h : f.SameStarted s f' origin) : evaluate s f' origin = evaluate s f origin :=
  @evaluate_of_runsAlike s s.policy f f' origin ⟨h, fun _ _ _ _ _ => rfl⟩

/-- A choice that takes its first branch and a right operand that is not needed, within an array. -/
theorem evaluate_of_sameStarted_choices :
    let yes := Formula.literal (.boolean true) none
    evaluate Setting.sample (.array [.conditional yes .self .self, .logical "||" yes .self]) (.root 3) =
      evaluate Setting.sample (.array [.conditional yes .self (.name "lost"), .logical "||" yes (.sequence [])])
        (.root 3) := by
  refine evaluate_of_sameStarted (.node rfl ?_)
  rintro g g' (_ | _ | i) hg hg'
  · obtain rfl := Option.some.inj (Formula.parts_of_started hg)
    obtain rfl := Option.some.inj hg'
    refine .of_part (i := 2) rfl ?_ ?_
    · rintro (_ | _ | _ | j) hj
      · rfl
      · rfl
      · exact absurd rfl hj
      · rfl
    · intro x x' hx _
      change (x, 2) ∈ [(_, 0), (_, 1)] at hx
      simp at hx
  · obtain rfl := Option.some.inj (Formula.parts_of_started hg)
    obtain rfl := Option.some.inj hg'
    refine .of_part (i := 1) rfl ?_ ?_
    · rintro (_ | _ | j) hj
      · rfl
      · exact absurd rfl hj
      · rfl
    · intro x x' hx _
      change (x, 1) ∈ [(_, 0)] at hx
      simp at hx
  · cases hg'

end GatedFormula
