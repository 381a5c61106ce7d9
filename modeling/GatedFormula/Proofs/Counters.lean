/-
  What an evaluation counts.
  - `Formula.visited` lists the nodes that an evaluation visits (`mem_visited`), each once (`visited_nodup`).
  - `Formula.nodeCount` counts nodes, and `Formula.size` those of a formula; the property of a member that is not
    computed counts as one node.
  - `outcomes_started`: the counts of a success are put together from those of the parts that it starts.
  - A success counts no more nodes than it visits (`nodes_le_nodeCount`), and all of them where neither a sequence
    nor the context itself is visited (`nodes_eq_nodeCount`). It counts the calls that it makes
    (`calls_eq_length`), which are those of the call nodes visited (`sites_perm`).
  Main statement: `counters_exact`.
-/
import GatedFormula.Proofs.Tally
import GatedFormula.Proofs.Visits
import Mathlib

namespace GatedFormula

namespace Formula

variable {s : Setting}

/-! ## Nodes visited -/

theorem startedInTurn_sublist (fs : List Formula) (p : Place) (i : Nat) :
    (startedInTurn s fs p i).Sublist (fs.zipIdx i) := by
  induction fs generalizing i with
  | nil => exact .slnil
  | cons f rest ih =>
    rw [startedInTurn, List.zipIdx_cons]
    refine .cons_cons _ ?_
    split
    · exact ih (i + 1)
    · exact List.nil_sublist _

theorem started_sublist (f : Formula) (p : Place) : (f.started s p).Sublist f.parts.zipIdx := by
  cases f with
  | sequence body => exact startedInTurn_sublist body p 0
  | conditional t c a =>
    rw [started]
    refine .cons_cons _ ?_
    split
    · split
      · exact .cons_cons _ (List.nil_sublist _)
      · exact .cons _ (.refl _)
    · exact List.nil_sublist _
  | logical op l r =>
    rw [started]
    refine .cons_cons _ ?_
    split
    · split
      · exact .refl _
      · exact List.nil_sublist _
    · exact List.nil_sublist _
  | _ => exact .refl _

/-- The nodes that the evaluation of the formula at a place visits, with their places. -/
def visited (s : Setting) (f : Formula) (p : Place) : List (Formula × Place) :=
  (f, p) :: (f.started s p).attach.flatMap fun n => visited s n.1.1 (p.child n.1.2)
termination_by sizeOf f
decreasing_by
  exact sizeOf_lt_of_mem_children (mem_children_of_parts (List.mem_of_getElem? (parts_of_started n.2)))

theorem visited_eq (f : Formula) (p : Place) : f.visited s p =
    (f, p) :: (f.started s p).flatMap fun n => n.1.visited s (p.child n.2) := by
  rw [visited, List.flatMap_subtype (g := fun n => n.1.visited s (p.child n.2)) fun _ _ => rfl, List.unattach_attach]

theorem mem_visited_self (f : Formula) (p : Place) : (f, p) ∈ f.visited s p := by
  rw [visited_eq]
  exact List.mem_cons_self

theorem visits_of_mem_visited (f : Formula) : ∀ {p : Place} {n : Formula × Place},
    n ∈ f.visited s p → f.Visits s p n.1 n.2 := by
  induction f using induction_parts with
  | h f ih =>
    intro p n hn
    rw [visited_eq, List.mem_cons, List.mem_flatMap] at hn
    rcases hn with rfl | ⟨⟨g, i⟩, hg, hn⟩
    · exact .self f p
    · exact .part hg (ih g (List.mem_of_getElem? (parts_of_started hg)) hn)

theorem mem_visited {f g : Formula} {p q : Place} : (g, q) ∈ f.visited s p ↔ f.Visits s p g q := by
  refine ⟨f.visits_of_mem_visited, fun hv => ?_⟩
  induction hv with
  | self f p => exact mem_visited_self f p
  | part hg _ ih =>
    rw [visited_eq, List.mem_cons, List.mem_flatMap]
    exact .inr ⟨_, hg, ih⟩

theorem walkedEach_eq (fs : List Formula) (p : Place) (i : Nat) :
    walkedEach fs p i = (fs.zipIdx i).flatMap fun n => n.1.walked (p.child n.2) := by
  induction fs generalizing i with
  | nil => rfl
  | cons f rest ih => rw [walkedEach, List.zipIdx_cons, List.flatMap_cons, ih]

/-- An evaluation visits the nodes of a formula in the order in which they stand in it. -/
theorem visited_sublist (f : Formula) : ∀ p : Place, (f.visited s p).Sublist (f.walked p) := by
  induction f using induction_parts with
  | h f ih =>
    intro p
    rw [visited_eq, walked_eq, walkedEach_eq]
    refine .cons_cons _ (.trans (List.Sublist.flatMap_right _ fun n hn => ?_) ((f.started_sublist p).flatMap _))
    exact ih n.1 (List.mem_of_getElem? (parts_of_started hn)) _

/-- **No node is visited twice.** -/
theorem visited_nodup (f : Formula) (p : Place) : ((f.visited s p).map Prod.snd).Nodup :=
  (f.walked_nodup p).sublist ((f.visited_sublist p).map _)

/-! ## Numbers of nodes -/

/-- The number of nodes that a node counts for: a property that is not computed is counted with its member. -/
def ownCount : Formula → Nat
  | .member _ _ false => 2
  | _ => 1

/-- The number of nodes, with the properties of members that are not computed. -/
def nodeCount (nodes : List (Formula × Place)) : Nat := (nodes.map fun n => n.1.ownCount).sum

mutual
/-- The number of nodes in a formula. A property that is not computed counts as one node. -/
def size : Formula → Nat
  | .array elements => 1 + sizeEach elements
  | .binary _ l r | .logical _ l r => 1 + l.size + r.size
  | .call callee arguments => 1 + callee.size + sizeEach arguments
  | .sequence body => 1 + sizeEach body
  | .conditional t c a => 1 + t.size + c.size + a.size
  | .name _ | .literal .. | .self => 1
  | .member object property computed => 1 + object.size + if computed then property.size else 1
  | .unary _ a _ => 1 + a.size

/-- The number of nodes in formulas. -/
def sizeEach : List Formula → Nat
  | [] => 0
  | f :: rest => f.size + sizeEach rest
end

theorem nodeCount_cons (n : Formula × Place) (nodes : List (Formula × Place)) :
    nodeCount (n :: nodes) = n.1.ownCount + nodeCount nodes := by
  simp [nodeCount]

theorem nodeCount_append (nodes nodes' : List (Formula × Place)) :
    nodeCount (nodes ++ nodes') = nodeCount nodes + nodeCount nodes' := by
  simp [nodeCount]

theorem nodeCount_flatMap {α : Type} (l : List α) (g : α → List (Formula × Place)) :
    nodeCount (l.flatMap g) = (l.map fun a => nodeCount (g a)).sum := by
  induction l with
  | nil => rfl
  | cons a rest ih => rw [List.flatMap_cons, nodeCount_append, ih, List.map_cons, List.sum_cons]

mutual
theorem nodeCount_walked : (f : Formula) → (p : Place) → nodeCount (f.walked p) = f.size
  | .array elements, p => by simp [walked, nodeCount_cons, nodeCount_walkedEach elements p 0, ownCount, size]
  | .binary op l r, p => by
    simp [walked, nodeCount_cons, nodeCount_append, nodeCount_walked l, nodeCount_walked r, ownCount, size]
    omega
  | .call callee arguments, p => by
    simp [walked, nodeCount_cons, nodeCount_append, nodeCount_walked callee, nodeCount_walkedEach arguments p 1,
      ownCount, size]
    omega
  | .sequence body, p => by simp [walked, nodeCount_cons, nodeCount_walkedEach body p 0, ownCount, size]
  | .conditional t c a, p => by
    simp [walked, nodeCount_cons, nodeCount_append, nodeCount_walked t, nodeCount_walked c, nodeCount_walked a,
      ownCount, size]
    omega
  | .name _, _ | .literal .., _ | .self, _ => rfl
  | .logical op l r, p => by
    simp [walked, nodeCount_cons, nodeCount_append, nodeCount_walked l, nodeCount_walked r, ownCount, size]
    omega
  | .member object property computed, p => by
    cases computed <;>
      simp [walked, nodeCount_cons, nodeCount_append, nodeCount_walked object, nodeCount_walked property,
        ownCount, size] <;> omega
  | .unary op a before, p => by simp [walked, nodeCount_cons, nodeCount_walked a, ownCount, size]

theorem nodeCount_walkedEach : (fs : List Formula) → (p : Place) → (i : Nat) →
    nodeCount (walkedEach fs p i) = sizeEach fs
  | [], _, _ => rfl
  | f :: rest, p, i => by
    rw [walkedEach, nodeCount_append, nodeCount_walked f, nodeCount_walkedEach rest, sizeEach]
end

/-- **No more nodes are visited than there are.** -/
theorem nodeCount_visited_le (f : Formula) (p : Place) : nodeCount (f.visited s p) ≤ f.size := by
  rw [← f.nodeCount_walked p]
  exact ((f.visited_sublist p).map _).sum_le_sum fun _ _ => Nat.zero_le _

/-! ## Counts of a success -/

open Traced

/-- The number of nodes that a node counts, with the outcomes of the parts that it has started: a sequence counts
those of its last formula and one for each formula, the context itself counts none. -/
def nodesWith : Formula → List Outcome → Nat
  | .sequence _, outs => (outs.map Outcome.nodes).getLastD 0 + outs.length
  | .self, _ => 0
  | f, outs => (outs.map Outcome.nodes).sum + f.ownCount

/-- The number of calls that a node makes itself. -/
def ownCalls (f : Formula) : Nat := if f.kind = .call then 1 else 0

/-- The outcomes are those of formulas at children of a place. -/
def OutcomesOf (s : Setting) (p : Place) (started : List (Formula × Nat)) (outs : List Outcome) : Prop :=
  List.Forall₂ (fun n o => (n.1.inTurn s (p.child n.2)).result = .ok o) started outs

theorem outcomesOf_inTurnEach {fs : List Formula} {p : Place} {i : Nat} {outs : List Outcome}
    (h : (inTurnEach s fs p i).result = .ok outs) : OutcomesOf s p (fs.zipIdx i) outs := by
  induction fs generalizing i outs with
  | nil =>
    obtain rfl := Except.ok.inj h
    exact .nil
  | cons f rest ih =>
    rw [inTurnEach] at h
    obtain ⟨o, hf, h⟩ := ok_of_bind h
    obtain ⟨os, hr, h⟩ := ok_of_bind h
    obtain rfl := Except.ok.inj h
    exact .cons hf (ih hr)

theorem outcomesOf_inTurnLast {fs : List Formula} {p : Place} {i calls : Nat} {o : Outcome}
    (h : (inTurnLast s fs p i calls).result = .ok o) : ∃ outs, OutcomesOf s p (startedInTurn s fs p i) outs ∧
      o.nodes = (outs.map Outcome.nodes).getLastD 0 + (i + outs.length) ∧
      o.calls = calls + (outs.map Outcome.calls).sum := by
  induction fs generalizing i calls with
  | nil => cases h
  | cons f rest ih =>
    cases rest with
    | nil =>
      rw [inTurnLast] at h
      obtain ⟨x, hf, h⟩ := ok_of_bind h
      obtain rfl := Except.ok.inj h
      rw [startedInTurn, hf]
      exact ⟨[x], .cons hf .nil, rfl, by simp⟩
    | cons g rest =>
      rw [inTurnLast_cons] at h
      obtain ⟨x, hf, h⟩ := ok_of_bind h
      obtain ⟨outs, houts, hnodes, hcalls⟩ := ih h
      rw [startedInTurn, hf]
      refine ⟨x :: outs, .cons hf houts, ?_, ?_⟩
      · obtain _ | ⟨y, outs⟩ := outs
        · rw [startedInTurn] at houts
          cases houts
        · simp only [List.map_cons, List.getLastD_cons, List.length_cons] at hnodes ⊢
          omega
      · rw [hcalls, List.map_cons, List.sum_cons]
        omega

theorem nodes_node (v : Value) (outs : List Outcome) :
    (Outcome.node v outs).nodes = (outs.map Outcome.nodes).sum + 1 := by
  induction outs with
  | nil => rfl
  | cons o rest ih =>
    change o.nodes + (Outcome.node v rest).nodes = _
    rw [ih, List.map_cons, List.sum_cons, Nat.add_assoc]

theorem calls_node (v : Value) (outs : List Outcome) :
    (Outcome.node v outs).calls = (outs.map Outcome.calls).sum := by
  induction outs with
  | nil => rfl
  | cons o rest ih =>
    change o.calls + (Outcome.node v rest).calls = _
    rw [ih, List.map_cons, List.sum_cons]

theorem exists_callInTurn {site : Place} {g o : Outcome} {outs : List Outcome}
    (h : (callInTurn s site g outs).result = .ok o) :
    ∃ v, o = ⟨v, (Outcome.node v (g :: outs)).nodes, 1 + (Outcome.node v (g :: outs)).calls⟩ := by
  unfold callInTurn at h
  cases hg : g.value with
  | function f receiver =>
    simp only [hg, told, Traced.ofResult] at h
    cases hi : s.host.invoke f receiver (outs.map Outcome.value) site with
    | ok v =>
      rw [hi] at h
      exact ⟨v, (Except.ok.inj h).symm⟩
    | error e => rw [hi] at h; cases h
  | _ => rw [hg] at h; cases h

/-- The key of a member that is not computed counts as one node. -/
theorem exists_keyInTurn {property : Formula} {q : Place} {key : Outcome}
    (h : (keyInTurn s false property q).result = .ok key) : ∃ n, key = .leaf (.text n) := by
  unfold keyInTurn at h
  cases hn : property.name? with
  | some n =>
    simp only [hn] at h
    exact ⟨n, (Except.ok.inj h).symm⟩
  | none => simp only [hn] at h; cases h

/-- **The counts of a success are put together from those of the parts that it starts.** -/
theorem outcomes_started (f : Formula) {p : Place} {o : Outcome} (h : (f.inTurn s p).result = .ok o) :
    ∃ outs, OutcomesOf s p (f.started s p) outs ∧ o.nodes = f.nodesWith outs ∧
      o.calls = (outs.map Outcome.calls).sum + f.ownCalls := by
  cases succeeds h with
  | @array _ _ outs he => exact ⟨outs, outcomesOf_inTurnEach he, nodes_node _ _, calls_node _ _⟩
  | @binary _ _ _ _ a b _ hl hr _ => exact ⟨[a, b], .cons hl (.cons hr .nil), nodes_node _ _, calls_node _ _⟩
  | @call _ _ _ g _ outs hc ha h =>
    obtain ⟨v, rfl⟩ := exists_callInTurn h
    refine ⟨g :: outs, .cons hc (outcomesOf_inTurnEach ha), nodes_node v _, ?_⟩
    change 1 + (Outcome.node v (g :: outs)).calls = _ + 1
    rw [calls_node, Nat.add_comm]
  | sequence h =>
    obtain ⟨outs, houts, hnodes, hcalls⟩ := outcomesOf_inTurnLast h
    rw [Nat.zero_add] at hnodes hcalls
    exact ⟨outs, houts, hnodes, hcalls⟩
  | @consequent _ _ _ _ x y ht hx hc =>
    rw [started_consequent ht hx]
    exact ⟨[x, y], .cons ht (.cons hc .nil), nodes_node _ _, calls_node _ _⟩
  | @alternate _ _ _ _ x y ht hx ha =>
    rw [started_alternate ht hx]
    exact ⟨[x, y], .cons ht (.cons ha .nil), nodes_node _ _, calls_node _ _⟩
  | @right _ _ _ _ _ a b hl ho hn hr =>
    rw [started_right hl ho hn]
    exact ⟨[a, b], .cons hl (.cons hr .nil), nodes_node _ _, calls_node _ _⟩
  | @left _ _ _ _ _ a hl ho hn =>
    rw [started_left hl ho hn]
    exact ⟨[a], .cons hl .nil, nodes_node _ _, calls_node _ _⟩
  | @member _ _ computed _ a key _ ha hk _ =>
    cases computed with
    | true => exact ⟨[a, key], .cons ha (.cons hk .nil), nodes_node _ _, calls_node _ _⟩
    | false =>
      obtain ⟨n, rfl⟩ := exists_keyInTurn hk
      exact ⟨[a], .cons ha .nil, nodes_node _ _, calls_node _ _⟩
  | name | literal | self => exact ⟨[], .nil, rfl, rfl⟩
  | @unary _ _ _ _ x _ ha _ => exact ⟨[x], .cons ha .nil, nodes_node _ _, calls_node _ _⟩

/-! ## Counts against nodes and calls -/

theorem OutcomesOf.of_mem {p : Place} {started : List (Formula × Nat)} {outs : List Outcome}
    {R : Formula × Nat → Outcome → Prop} (h : OutcomesOf s p started outs)
    (hR : ∀ n ∈ started, ∀ o, (n.1.inTurn s (p.child n.2)).result = .ok o → R n o) :
    List.Forall₂ R started outs := by
  induction h with
  | nil => exact .nil
  | cons ho _ ih =>
    rw [List.forall_mem_cons] at hR
    exact .cons (hR.1 _ ho) (ih hR.2)

theorem sum_nodes_le {started : List (Formula × Nat)} {outs : List Outcome} {count : Formula × Nat → Nat}
    (h : List.Forall₂ (fun n o => o.nodes ≤ count n) started outs) :
    (outs.map Outcome.nodes).sum ≤ (started.map count).sum := by
  induction h with
  | nil => exact Nat.le_refl _
  | cons ho _ ih =>
    simp only [List.map_cons, List.sum_cons]
    omega

theorem map_eq_of_forall₂ {started : List (Formula × Nat)} {outs : List Outcome} {value : Outcome → Nat}
    {count : Formula × Nat → Nat} (h : List.Forall₂ (fun n o => value o = count n) started outs) :
    outs.map value = started.map count := by
  induction h with
  | nil => rfl
  | cons ho _ ih => rw [List.map_cons, List.map_cons, ho, ih]

/-- Of a sequence only the last outcome counts in full, but every formula counts at least for one. -/
theorem last_nodes_le {started : List (Formula × Nat)} {outs : List Outcome} {count : Formula × Nat → Nat}
    (h : List.Forall₂ (fun n o => o.nodes ≤ count n ∧ 1 ≤ count n) started outs) :
    (outs.map Outcome.nodes).getLastD 0 + outs.length ≤ (started.map count).sum + 1 := by
  induction h with
  | nil => exact Nat.zero_le _
  | @cons n o started outs ho _ ih =>
    obtain _ | ⟨o', outs⟩ := outs
    · simp only [List.map_cons, List.map_nil, List.getLastD_cons, List.getLastD_nil, List.length_cons,
        List.length_nil, List.sum_cons]
      omega
    · simp only [List.map_cons, List.getLastD_cons, List.length_cons, List.sum_cons] at ih ⊢
      omega

theorem nodeCount_visited (f : Formula) (p : Place) : nodeCount (f.visited s p) =
    f.ownCount + ((f.started s p).map fun n => nodeCount (n.1.visited s (p.child n.2))).sum := by
  rw [visited_eq, nodeCount_cons, nodeCount_flatMap]

theorem one_le_ownCount (f : Formula) : 1 ≤ f.ownCount := by
  unfold ownCount
  split <;> omega

theorem one_le_nodeCount_visited (f : Formula) (p : Place) : 1 ≤ nodeCount (f.visited s p) := by
  rw [nodeCount_visited]
  have := f.one_le_ownCount
  omega

/-- **A success counts no more nodes than it visits.** -/
theorem nodes_le_nodeCount (f : Formula) : ∀ {p : Place} {o : Outcome}, (f.inTurn s p).result = .ok o →
    o.nodes ≤ nodeCount (f.visited s p) := by
  induction f using induction_parts with
  | h f ih =>
    intro p o h
    obtain ⟨outs, houts, hnodes, -⟩ := outcomes_started f h
    have hle : ∀ n ∈ f.started s p, ∀ o, (n.1.inTurn s (p.child n.2)).result = .ok o →
        o.nodes ≤ nodeCount (n.1.visited s (p.child n.2)) := fun n hn o ho =>
      ih n.1 (List.mem_of_getElem? (parts_of_started hn)) ho
    have hsum := sum_nodes_le (houts.of_mem hle)
    rw [nodeCount_visited, hnodes]
    cases f with
    | sequence body =>
      have hlast := last_nodes_le (houts.of_mem fun n hn o ho => ⟨hle n hn o ho, one_le_nodeCount_visited ..⟩)
      simp only [nodesWith, ownCount]
      omega
    | self => exact Nat.zero_le _
    | _ =>
      simp only [nodesWith]
      omega

/-- **A success counts every node that it visits**, if none is a sequence or the context itself. -/
theorem nodes_eq_nodeCount (f : Formula) : ∀ {p : Place} {o : Outcome}, (f.inTurn s p).result = .ok o →
    (∀ n ∈ f.visited s p, n.1.kind ≠ .sequence ∧ n.1.kind ≠ .self) → o.nodes = nodeCount (f.visited s p) := by
  induction f using induction_parts with
  | h f ih =>
    intro p o h hk
    obtain ⟨outs, houts, hnodes, -⟩ := outcomes_started f h
    have heq := houts.of_mem fun n hn o ho => ih n.1 (List.mem_of_getElem? (parts_of_started hn)) ho fun m hm => by
      refine hk m ?_
      rw [visited_eq]
      exact List.mem_cons_of_mem _ (List.mem_flatMap.2 ⟨n, hn, hm⟩)
    have hsum : outs.map Outcome.nodes =
        (f.started s p).map fun n => nodeCount (n.1.visited s (p.child n.2)) := map_eq_of_forall₂ heq
    rw [nodeCount_visited, hnodes, ← hsum, Nat.add_comm]
    obtain ⟨hseq, hself⟩ := hk _ (mem_visited_self f p)
    cases f with
    | sequence body => exact absurd rfl hseq
    | self => exact absurd rfl hself
    | _ => rfl

/-- The places of the call nodes among nodes. -/
def callPlaces (nodes : List (Formula × Place)) : List Place :=
  (nodes.filter fun n => n.1.kind = .call).map Prod.snd

theorem callPlaces_visited (f : Formula) (p : Place) : callPlaces (f.visited s p) =
    (if f.kind = .call then [p] else []) ++
      (f.started s p).flatMap fun n => callPlaces (n.1.visited s (p.child n.2)) := by
  rw [visited_eq, callPlaces, List.filter_cons, List.filter_flatMap]
  by_cases hk : f.kind = .call
  · simp only [hk, decide_true, if_true, List.map_cons, List.map_flatMap, List.singleton_append]
    rfl
  · simp only [hk, decide_false, Bool.false_eq_true, if_false, List.map_flatMap, List.nil_append]
    rfl

/-- **The calls made for a success are those of the call nodes visited**, one at each. -/
theorem sites_perm (f : Formula) : ∀ {p : Place} {o : Outcome}, (f.inTurn s p).result = .ok o →
    ((f.inTurn s p).calls.map Invocation.site).Perm (callPlaces (f.visited s p)) := by
  induction f using induction_parts with
  | h f ih =>
    intro p o h
    obtain ⟨own, ht, hs⟩ := takes_started f h
    rw [ht.calls, List.map_append, hs, callPlaces_visited, List.map_flatMap, tracesOf, List.flatMap_map]
    refine List.perm_append_comm.trans (.append_left _ (List.Perm.flatMap_left _ fun n hn => ?_))
    obtain ⟨o', ho'⟩ := ok_of_started hn h
    exact ih n.1 (List.mem_of_getElem? (parts_of_started hn)) ho'

/-- **A success counts the calls made for it.** -/
theorem calls_eq_length (f : Formula) : ∀ {p : Place} {o : Outcome}, (f.inTurn s p).result = .ok o →
    o.calls = (f.inTurn s p).calls.length := by
  induction f using induction_parts with
  | h f ih =>
    intro p o h
    obtain ⟨outs, houts, -, hcalls⟩ := outcomes_started f h
    obtain ⟨own, ht, hs⟩ := takes_started f h
    have hsum : outs.map Outcome.calls =
        (f.started s p).map fun n => (n.1.inTurn s (p.child n.2)).calls.length :=
      map_eq_of_forall₂ (houts.of_mem fun n hn o ho => ih n.1 (List.mem_of_getElem? (parts_of_started hn)) ho)
    have hown : own.length = f.ownCalls := by
      rw [← List.length_map (f := Invocation.site), hs, ownCalls]
      split <;> rfl
    rw [hcalls, hsum, ht.calls, List.length_append, hown, List.length_flatMap, tracesOf, List.map_map]
    rfl

end Formula

open Formula

/-- **The counters of an evaluation are exact.**
- The nodes visited are those that the evaluation gets to, each once.
- A success counts the calls that have been performed. They are those of the call nodes visited, one at each, and
  the journal has an entry for each of them.
- It counts no more nodes than it has visited, so no more than there are, and all nodes visited if the formula has
  neither a sequence nor the context itself in it.
- Whether it succeeds or fails, an evaluation performs at most one call at each place, and only at call nodes. -/
theorem counters_exact (s : Setting) (f : Formula) (origin : Place) :
    ((∀ g q, (g, q) ∈ f.visited s origin ↔ f.Visits s origin g q) ∧ ((f.visited s origin).map Prod.snd).Nodup) ∧
    (∀ o, (evaluate s f origin).result = .ok o →
      (o.calls = (evaluate s f origin).invocations.length ∧
        o.calls = (callPlaces (f.visited s origin)).length ∧
        ((evaluate s f origin).invocations.map Invocation.site).Perm (callPlaces (f.visited s origin)) ∧
        o.calls = ((evaluate s f origin).journal.filter Entry.isCalling).length) ∧
      (o.nodes ≤ nodeCount (f.visited s origin) ∧ nodeCount (f.visited s origin) ≤ f.size ∧
        ((∀ n ∈ f.walked origin, n.1.kind ≠ .sequence ∧ n.1.kind ≠ .self) →
          o.nodes = nodeCount (f.visited s origin)))) ∧
    ((evaluate s f origin).invocations.map Invocation.site).Nodup ∧
    ∀ c ∈ (evaluate s f origin).invocations, ∃ callee arguments,
      f.HasNode origin (.call callee arguments) c.site := by
  refine ⟨⟨fun g q => mem_visited, f.visited_nodup origin⟩, fun o ho => ?_, nodup_sites s f origin, fun c hc => ?_⟩
  · have ha := evaluate_agrees s f origin
    have h := ha.ok_iff.2 ho
    have hperm : (f.inTurn s origin).calls.Perm (evaluate s f origin).invocations := ha.perm h
    have hsites := (hperm.map Invocation.site).symm.trans (f.sites_perm h)
    have hcalls : o.calls = (evaluate s f origin).invocations.length :=
      (f.calls_eq_length h).trans hperm.length_eq
    refine ⟨⟨hcalls, ?_, hsites, ?_⟩, f.nodes_le_nodeCount h, f.nodeCount_visited_le origin, fun hk => ?_⟩
    · rw [hcalls, ← hsites.length_eq, List.length_map]
    · rw [hcalls, filter_journal, List.length_map]
    · exact f.nodes_eq_nodeCount h fun n hn => hk n ((f.visited_sublist origin).subset hn)
  · cases arises_of_mem s f origin hc with
    | call hn _ _ _ => exact ⟨_, _, hn⟩

/-- In `true ? box.echo("a") : lost` two calls are written and one is performed, and a dotted key is counted. -/
theorem counters_exact_echo :
    let f : Formula := .conditional (.literal (.boolean true) none)
      (.call (.member (.name "box") (.name "echo") false) [.literal (.text "a") none]) (.call (.name "lost") [])
    let e := evaluate Setting.sample f (.root 3)
    ∃ o, e.result = .ok o ∧ o.calls = 1 ∧ (e.journal.filter Entry.isCalling).length = 1 ∧
      o.nodes = 7 ∧ nodeCount (f.visited Setting.sample (.root 3)) = 7 ∧ f.size = 9 := by
  intro f e
  have ho : e.result = .ok _ := rfl
  obtain ⟨-, h, -⟩ := counters_exact Setting.sample f (.root 3)
  obtain ⟨⟨-, -, -, hj⟩, -, -, hn⟩ := h _ ho
  have hkinds : ∀ n ∈ f.walked (.root 3), n.1.kind ≠ .sequence ∧ n.1.kind ≠ .self := by
    simp [f, walked, walkedEach, kind]
  exact ⟨_, ho, rfl, hj.symm, rfl, (hn hkinds).symm, rfl⟩

end GatedFormula
