/-
  The nodes that an evaluation visits.
  - `Formula.started` lists the parts of a node that its evaluation starts, and `Formula.Visits` follows them down.
  - A node that succeeds has taken every part that it started to a success, and made their calls in order before
    its own (`takes_started`).
  - So every node visited on the way to a success has succeeded itself (`ok_of_visits`). Whatever is visited, an
    analysis looks at too (`walked_of_visits`).
-/
import GatedFormula.Proofs.CallSites
import GatedFormula.Proofs.Success
import GatedFormula.Proofs.Walk

namespace GatedFormula

namespace Traced

variable {α β : Type}

/-- A trace takes some traces to success and makes their calls, and then its own ones. -/
structure Takes (t : Traced α) (parts : List (Traced Outcome)) (own : List Invocation) : Prop where
  ok : ∀ u ∈ parts, ∃ o, u.result = .ok o
  calls : t.calls = parts.flatMap Traced.calls ++ own

theorem takes_ofResult (r : Except Fault α) : (ofResult r).Takes [] [] := ⟨nofun, rfl⟩

theorem takes_self {t : Traced Outcome} {o : Outcome} (h : t.result = .ok o) : t.Takes [t] [] := by
  refine ⟨fun u hu => ?_, by simp⟩
  obtain rfl := List.mem_singleton.1 hu
  exact ⟨o, h⟩

theorem Takes.bind {t : Traced α} {k : α → Traced β} {a : α} {parts parts' : List (Traced Outcome)}
    {own : List Invocation} (h : t.Takes parts []) (ht : t.result = .ok a) (hk : (k a).Takes parts' own) :
    (t >>= k).Takes (parts ++ parts') own := by
  constructor
  · intro u hu
    rcases List.mem_append.1 hu with hu | hu
    · exact h.ok u hu
    · exact hk.ok u hu
  · rw [bind_of_ok ht, told, h.calls, hk.calls, List.append_nil, List.flatMap_append, List.append_assoc]

theorem Takes.bind_pure {t : Traced α} {a : α} {parts : List (Traced Outcome)} (h : t.Takes parts [])
    (ht : t.result = .ok a) (g : α → β) : (t >>= fun a => pure (g a)).Takes parts [] := by
  have hb := h.bind (k := fun a => pure (g a)) ht (takes_ofResult (.ok (g a)))
  rwa [List.append_nil] at hb

end Traced

namespace Formula

/-- The formulas of a sequence that are started, with their child numbers: all up to the first one that fails. -/
def startedInTurn (s : Setting) : List Formula → Place → Nat → List (Formula × Nat)
  | [], _, _ => []
  | f :: rest, p, i =>
    (f, i) ::
      match (f.inTurn s (p.child i)).result with
      | .ok _ => startedInTurn s rest p (i + 1)
      | .error _ => []

/-- The parts of the node at a place that its evaluation starts, with their child numbers. -/
def started (s : Setting) : Formula → Place → List (Formula × Nat)
  | .sequence body, p => startedInTurn s body p 0
  | .conditional t c a, p =>
    (t, 0) ::
      match (t.inTurn s (p.child 0)).result with
      | .ok o => if o.value.isTruthy then [(c, 1)] else [(a, 2)]
      | .error _ => []
  | .logical op l r, p =>
    (l, 0) ::
      match (l.inTurn s (p.child 0)).result, LogicalOperator.ofSymbol? op with
      | .ok o, some lo => if lo.needsRight o.value.isTruthy then [(r, 1)] else []
      | _, _ => []
  | f, _ => f.parts.zipIdx

/-- The evaluation of the formula at a place visits a node at its place. -/
inductive Visits (s : Setting) : Formula → Place → Formula → Place → Prop
  | self (f : Formula) (p : Place) : Visits s f p f p
  | part {f g g' : Formula} {p q : Place} {i : Nat} (h : (g, i) ∈ f.started s p)
      (hv : Visits s g (p.child i) g' q) : Visits s f p g' q

/-- The traces of parts of the node at a place. -/
def tracesOf (s : Setting) (p : Place) (started : List (Formula × Nat)) : List (Traced Outcome) :=
  started.map fun n => n.1.inTurn s (p.child n.2)

open Traced

variable {s : Setting}

theorem takes_inTurnEach {fs : List Formula} {p : Place} {i : Nat} {outs : List Outcome}
    (h : (inTurnEach s fs p i).result = .ok outs) :
    (inTurnEach s fs p i).Takes (tracesOf s p (fs.zipIdx i)) [] := by
  induction fs generalizing i outs with
  | nil => exact takes_ofResult _
  | cons f rest ih =>
    rw [inTurnEach] at h ⊢
    obtain ⟨o, hf, h⟩ := ok_of_bind h
    obtain ⟨os, hr, h⟩ := ok_of_bind h
    exact (takes_self hf).bind hf ((ih hr).bind_pure hr (o :: ·))

theorem takes_inTurnLast {fs : List Formula} {p : Place} {i calls : Nat} {o : Outcome}
    (h : (inTurnLast s fs p i calls).result = .ok o) :
    (inTurnLast s fs p i calls).Takes (tracesOf s p (startedInTurn s fs p i)) [] := by
  induction fs generalizing i calls with
  | nil => cases h
  | cons f rest ih =>
    cases rest with
    | nil =>
      rw [inTurnLast] at h ⊢
      obtain ⟨x, hf, h⟩ := ok_of_bind h
      rw [startedInTurn, hf]
      exact (takes_self hf).bind hf (takes_ofResult _)
    | cons g rest =>
      rw [inTurnLast_cons] at h ⊢
      obtain ⟨x, hf, h⟩ := ok_of_bind h
      rw [startedInTurn, hf]
      exact (takes_self hf).bind hf (ih h)

theorem takes_callInTurn {site : Place} {o o' : Outcome} {outs : List Outcome}
    (h : (callInTurn s site o outs).result = .ok o') :
    ∃ own, (callInTurn s site o outs).Takes [] own ∧ own.map Invocation.site = [site] := by
  unfold callInTurn at h ⊢
  cases hv : o.value with
  | function g receiver => exact ⟨[⟨site, g, receiver, outs.map Outcome.value⟩], ⟨nofun, rfl⟩, rfl⟩
  | _ => rw [hv] at h; cases h

/-! ## What a success starts -/

section
variable {t c a l r : Formula} {op : String} {lo : LogicalOperator} {p : Place} {x : Outcome}

theorem started_consequent (ht : (t.inTurn s (p.child 0)).result = .ok x) (hx : x.value.isTruthy) :
    (conditional t c a).started s p = [(t, 0), (c, 1)] := by
  simp only [started, ht, if_pos hx]

theorem started_alternate (ht : (t.inTurn s (p.child 0)).result = .ok x) (hx : ¬ x.value.isTruthy) :
    (conditional t c a).started s p = [(t, 0), (a, 2)] := by
  simp only [started, ht, if_neg hx]

theorem started_right (hl : (l.inTurn s (p.child 0)).result = .ok x) (ho : LogicalOperator.ofSymbol? op = some lo)
    (hn : lo.needsRight x.value.isTruthy) : (logical op l r).started s p = [(l, 0), (r, 1)] := by
  simp only [started, hl, ho, if_pos hn]

theorem started_left (hl : (l.inTurn s (p.child 0)).result = .ok x) (ho : LogicalOperator.ofSymbol? op = some lo)
    (hn : ¬ lo.needsRight x.value.isTruthy) : (logical op l r).started s p = [(l, 0)] := by
  simp only [started, hl, ho, if_neg hn]

end

theorem takes_keyInTurn {property : Formula} {p : Place} : (keyInTurn s false property p).Takes [] [] := by
  unfold keyInTurn
  cases property.name? <;> exact takes_ofResult _

/-- **A success takes to success every part that it starts.** A call has one call of its own, at its place, and no
other node has any. -/
theorem takes_started (f : Formula) {p : Place} {o : Outcome} (h : (f.inTurn s p).result = .ok o) :
    ∃ own, (f.inTurn s p).Takes (tracesOf s p (f.started s p)) own ∧
      own.map Invocation.site = if f.kind = .call then [p] else [] := by
  cases succeeds h with
  | array he => exact ⟨[], (takes_inTurnEach he).bind_pure he _, rfl⟩
  | binary hl hr _ => exact ⟨[], (takes_self hl).bind hl ((takes_self hr).bind hr (takes_ofResult _)), rfl⟩
  | call hc ha h =>
    obtain ⟨own, hown, hsite⟩ := takes_callInTurn h
    have ht := (takes_inTurnEach ha).bind ha hown
    rw [List.append_nil] at ht
    exact ⟨own, (takes_self hc).bind hc ht, hsite⟩
  | sequence h => exact ⟨[], takes_inTurnLast h, rfl⟩
  | consequent ht hx hc =>
    rw [started_consequent ht hx]
    refine ⟨[], (takes_self ht).bind ht ?_, rfl⟩
    simp only [if_pos hx]
    exact (takes_self hc).bind hc (takes_ofResult _)
  | alternate ht hx ha =>
    rw [started_alternate ht hx]
    refine ⟨[], (takes_self ht).bind ht ?_, rfl⟩
    simp only [if_neg hx]
    exact (takes_self ha).bind ha (takes_ofResult _)
  | name hn =>
    rw [inTurn, hn]
    exact ⟨[], takes_ofResult _, rfl⟩
  | literal => exact ⟨[], takes_ofResult _, rfl⟩
  | right hl ho hn hr =>
    rw [started_right hl ho hn]
    refine ⟨[], (takes_self hl).bind hl ?_, rfl⟩
    simp only [ho, if_pos hn]
    exact (takes_self hr).bind hr (takes_ofResult _)
  | left hl ho hn =>
    rw [started_left hl ho hn]
    refine ⟨[], (takes_self hl).bind hl ?_, rfl⟩
    simp only [ho, if_neg hn]
    exact takes_ofResult _
  | @member object property computed p a key v ha hk _ =>
    rw [inTurn_member]
    refine ⟨[], ?_, rfl⟩
    cases computed with
    | true => exact (takes_self ha).bind ha ((takes_self hk).bind hk (takes_ofResult _))
    | false => exact (takes_self ha).bind ha (takes_keyInTurn.bind hk (takes_ofResult _))
  | self => exact ⟨[], takes_ofResult _, rfl⟩
  | unary ha _ => exact ⟨[], (takes_self ha).bind ha (takes_ofResult _), rfl⟩

/-! ## Visited nodes -/

theorem mem_tracesOf {p : Place} {started : List (Formula × Nat)} {g : Formula} {i : Nat}
    (h : (g, i) ∈ started) : g.inTurn s (p.child i) ∈ tracesOf s p started :=
  List.mem_map_of_mem (f := fun n : Formula × Nat => n.1.inTurn s (p.child n.2)) h

theorem ok_of_started {f g : Formula} {p : Place} {i : Nat} {o : Outcome} (hg : (g, i) ∈ f.started s p)
    (h : (f.inTurn s p).result = .ok o) : ∃ o', (g.inTurn s (p.child i)).result = .ok o' := by
  obtain ⟨own, ht, -⟩ := takes_started f h
  exact ht.ok _ (mem_tracesOf hg)

/-- **Every node visited on the way to a success succeeds.** -/
theorem ok_of_visits {f g : Formula} {p q : Place} (hv : f.Visits s p g q) {o : Outcome}
    (h : (f.inTurn s p).result = .ok o) : ∃ o', (g.inTurn s q).result = .ok o' := by
  induction hv generalizing o with
  | self => exact ⟨o, h⟩
  | part hg _ ih =>
    obtain ⟨o', h'⟩ := ok_of_started hg h
    exact ih h'

theorem getElem?_of_startedInTurn {fs : List Formula} {p : Place} {i j : Nat} {g : Formula}
    (h : (g, j) ∈ startedInTurn s fs p i) : ∃ k, j = i + k ∧ fs[k]? = some g := by
  induction fs generalizing i with
  | nil => cases h
  | cons f rest ih =>
    rw [startedInTurn] at h
    rcases List.mem_cons.1 h with he | h
    · obtain ⟨rfl, rfl⟩ := Prod.mk.inj he
      exact ⟨0, rfl, rfl⟩
    · split at h
      · obtain ⟨k, hk, hg⟩ := ih h
        exact ⟨k + 1, by omega, hg⟩
      · cases h

/-- What is started is a part, by its child number. -/
theorem parts_of_started {f g : Formula} {p : Place} {i : Nat} (h : (g, i) ∈ f.started s p) :
    f.parts[i]? = some g := by
  cases f with
  | sequence body =>
    obtain ⟨k, rfl, hg⟩ := getElem?_of_startedInTurn h
    rw [Nat.zero_add]
    exact hg
  | conditional t c a =>
    rw [started] at h
    rcases List.mem_cons.1 h with he | h
    · obtain ⟨rfl, rfl⟩ := Prod.mk.inj he
      rfl
    · split at h
      · split at h <;> obtain ⟨rfl, rfl⟩ := Prod.mk.inj (List.mem_singleton.1 h) <;> rfl
      · cases h
  | logical op l r =>
    rw [started] at h
    rcases List.mem_cons.1 h with he | h
    · obtain ⟨rfl, rfl⟩ := Prod.mk.inj he
      rfl
    · split at h
      · split at h
        · obtain ⟨rfl, rfl⟩ := Prod.mk.inj (List.mem_singleton.1 h)
          rfl
        · cases h
      · cases h
  | _ => exact List.mem_zipIdx_iff_getElem?.1 h

/-- Every node visited is one that an analysis looks at. -/
theorem walked_of_visits {f g : Formula} {p q : Place} (hv : f.Visits s p g q) : (g, q) ∈ f.walked p := by
  induction hv with
  | self f p => exact mem_walked_self f p
  | part hg _ ih =>
    exact walked_trans (mem_walked.2 (.inr ⟨_, _, parts_of_started hg, mem_walked_self ..⟩)) ih

end Formula

theorem isPermitted_of_readMember {policy : Option Policy} {v m : Value} {k : Key}
    (h : readMember policy v k = .ok m) : isPermitted policy v k = true := by
  by_contra hp
  rw [readMember, if_neg hp] at h
  cases h

/-- **Every member visited on the way to a success has been permitted**, whatever it was read of. -/
theorem isPermitted_of_visits {s : Setting} {f object property : Formula} {computed : Bool} {origin q : Place}
    {o : Outcome} (h : (evaluate s f origin).result = .ok o)
    (hv : f.Visits s origin (.member object property computed) q) :
    ∃ v k, isPermitted s.policy v k = true := by
  obtain ⟨o', h'⟩ := Formula.ok_of_visits hv ((evaluate_agrees s f origin).ok_iff.2 h)
  obtain ⟨a, key, -, -, hr⟩ := Formula.inTurn_member_eq_ok h'
  obtain ⟨k, -, hm⟩ := Setting.read_eq_ok hr
  exact ⟨a.value, k, isPermitted_of_readMember hm⟩

end GatedFormula
