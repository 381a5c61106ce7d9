/-
  The nodes of a formula that its analysis looks at, and what it finds at each.
  - `Formula.walked` lists the nodes with their places, each before its parts: all but those of properties that
    are not computed (`hasNode_of_walked`, `walked_of_hasNode`). No place is listed twice (`walked_nodup`).
  - `Formula.found` is what is found at one node.
  - `Formula.survey_eq`: what a survey finds is what is found at the nodes, one after the other.
-/
import GatedFormula.Proofs.Node
import GatedFormula.Static.Inventory
import Mathlib.Data.List.Nodup

namespace GatedFormula

namespace Findings

@[simp] theorem append_none (a : Findings) : a ++ none = a := by
  change append a none = a
  simp only [append, none, List.append_nil]

theorem append_assoc (a b c : Findings) : a ++ b ++ c = a ++ (b ++ c) := by
  change append (append a b) c = append a (append b c)
  simp only [append, List.append_assoc]

end Findings

theorem Place.child_below (p : Place) (i : Nat) (path : List Nat) :
    (p.child i).below path = p.below (path ++ [i]) := by
  simp [below, child]

namespace Formula

/-- The parts of a formula that are looked at, by child numbers. -/
def parts : Formula → List Formula
  | .member object property computed => if computed then [object, property] else [object]
  | f => f.children

mutual
/-- The nodes of the formula at a place, with their places. -/
def walked : Formula → Place → List (Formula × Place)
  | .array elements, p => (.array elements, p) :: walkedEach elements p 0
  | .binary op l r, p => (.binary op l r, p) :: (walked l (p.child 0) ++ walked r (p.child 1))
  | .call callee arguments, p =>
    (.call callee arguments, p) :: (walked callee (p.child 0) ++ walkedEach arguments p 1)
  | .sequence body, p => (.sequence body, p) :: walkedEach body p 0
  | .conditional t c a, p =>
    (.conditional t c a, p) ::
      (walked t (p.child 0) ++ (walked c (p.child 1) ++ walked a (p.child 2)))
  | .logical op l r, p => (.logical op l r, p) :: (walked l (p.child 0) ++ walked r (p.child 1))
  | .member object property computed, p =>
    (.member object property computed, p) ::
      (walked object (p.child 0) ++ if computed then walked property (p.child 1) else [])
  | .unary op a before, p => (.unary op a before, p) :: walked a (p.child 0)
  | .name n, p => [(.name n, p)]
  | .literal v raw, p => [(.literal v raw, p)]
  | .self, p => [(.self, p)]

/-- The nodes of formulas, at children of a place from a number on. -/
def walkedEach : List Formula → Place → Nat → List (Formula × Place)
  | [], _, _ => []
  | f :: rest, p, i => walked f (p.child i) ++ walkedEach rest p (i + 1)
end

/-- The nodes of a formula are itself and those of its parts. -/
theorem walked_eq (f : Formula) (p : Place) : f.walked p = (f, p) :: walkedEach f.parts p 0 := by
  cases f with
  | member object property computed => cases computed <;> simp [walked, walkedEach, parts]
  | _ => simp [walked, walkedEach, parts, children]

theorem mem_walked_self (f : Formula) (p : Place) : (f, p) ∈ f.walked p := by
  rw [walked_eq]
  exact List.mem_cons_self

theorem mem_walkedEach {fs : List Formula} {p : Place} {i : Nat} {n : Formula × Place} :
    n ∈ walkedEach fs p i ↔ ∃ (j : Nat) (g : Formula), fs[j]? = some g ∧ n ∈ g.walked (p.child (i + j)) := by
  induction fs generalizing i with
  | nil => simp [walkedEach]
  | cons f rest ih =>
    rw [walkedEach, List.mem_append, ih]
    constructor
    · rintro (h | ⟨j, g, hg, h⟩)
      · exact ⟨0, f, rfl, h⟩
      · rw [Nat.succ_add_eq_add_succ] at h
        exact ⟨j + 1, g, hg, h⟩
    · rintro ⟨_ | j, g, hg, h⟩
      · obtain rfl := Option.some.inj hg
        exact .inl h
      · rw [← Nat.succ_add_eq_add_succ] at h
        exact .inr ⟨j, g, hg, h⟩

theorem mem_walked {f : Formula} {p : Place} {n : Formula × Place} :
    n ∈ f.walked p ↔ n = (f, p) ∨
      ∃ (j : Nat) (g : Formula), f.parts[j]? = some g ∧ n ∈ g.walked (p.child j) := by
  simp only [walked_eq f p, List.mem_cons, mem_walkedEach, Nat.zero_add]

theorem children_of_parts (f : Formula) {i : Nat} {g : Formula} (h : f.parts[i]? = some g) :
    f.children[i]? = some g := by
  cases f with
  | member object property computed =>
    cases computed with
    | true => exact h
    | false => cases i with
      | zero => exact h
      | succ i => cases h
  | _ => exact h

/-- A child is a part or the property of a member that is not computed. -/
theorem parts_or_key (f : Formula) {i : Nat} {g : Formula} (h : f.children[i]? = some g) :
    f.parts[i]? = some g ∨ ∃ object property, f = member object property false ∧ i = 1 ∧ g = property := by
  cases f with
  | member object property computed =>
    cases computed with
    | true => exact .inl h
    | false =>
      obtain _ | _ | i := i
      · exact .inl h
      · exact .inr ⟨object, property, rfl, rfl, (Option.some.inj h).symm⟩
      · cases h
  | _ => exact .inl h

theorem mem_children_of_parts {f g : Formula} (h : g ∈ f.parts) : g ∈ f.children := by
  obtain ⟨i, hi⟩ := List.mem_iff_getElem?.1 h
  exact List.mem_of_getElem? (f.children_of_parts hi)

theorem sizeOf_lt_of_mem_children {f g : Formula} (h : g ∈ f.children) : sizeOf g < sizeOf f := by
  have hl (fs : List Formula) (hg : g ∈ fs) : sizeOf g < sizeOf fs := List.sizeOf_lt_of_mem hg
  cases f with
  | array fs => have := hl fs h; simp only [array.sizeOf_spec]; omega
  | sequence fs => have := hl fs h; simp only [sequence.sizeOf_spec]; omega
  | call callee fs =>
    rcases List.mem_cons.1 h with rfl | h
    · simp only [call.sizeOf_spec]; omega
    · have := hl fs h; simp only [call.sizeOf_spec]; omega
  | name | literal | self => cases h
  | _ =>
    simp only [children, List.mem_cons, List.not_mem_nil, or_false] at h
    rcases h with rfl | rfl | rfl <;>
      simp only [binary.sizeOf_spec, logical.sizeOf_spec, conditional.sizeOf_spec, member.sizeOf_spec,
        unary.sizeOf_spec] <;> omega

/-- What holds of a formula if it holds of its parts holds of every formula. -/
theorem induction_parts {P : Formula → Prop} (h : ∀ f : Formula, (∀ g ∈ f.parts, P g) → P f) (f : Formula) :
    P f :=
  h f fun g _ => induction_parts h g
termination_by sizeOf f
decreasing_by exact sizeOf_lt_of_mem_children (mem_children_of_parts ‹_›)

/-- The nodes of a node are nodes. -/
theorem walked_trans {f : Formula} : ∀ {p : Place} {n m : Formula × Place}, n ∈ f.walked p →
    m ∈ n.1.walked n.2 → m ∈ f.walked p := by
  induction f using induction_parts with
  | h f ih =>
    intro p n m hn hm
    rcases mem_walked.1 hn with rfl | ⟨j, g, hg, hn⟩
    · exact hm
    · exact mem_walked.2 (.inr ⟨j, g, hg, ih g (List.mem_of_getElem? hg) hn hm⟩)

/-! ## Places -/

/-- A node of a part is a node. -/
theorem HasNode.of_part {f g g' : Formula} {p q : Place} {i : Nat} (hg : f.parts[i]? = some g)
    (h : g.HasNode (p.child i) g' q) : f.HasNode p g' q := by
  obtain ⟨path, hpath, rfl⟩ := h
  refine ⟨path ++ [i], ?_, by rw [Place.child_below]⟩
  rw [at?_concat, f.children_of_parts hg]
  exact hpath

/-- What is walked is a node of the formula. -/
theorem hasNode_of_walked {f : Formula} : ∀ {g : Formula} {p q : Place}, (g, q) ∈ f.walked p →
    f.HasNode p g q := by
  induction f using induction_parts with
  | h f ih =>
    intro g p q hn
    rcases mem_walked.1 hn with he | ⟨i, g', hg, hn⟩
    · obtain ⟨rfl, rfl⟩ := Prod.mk.inj he
      exact .root g q
    · exact .of_part hg (ih g' (List.mem_of_getElem? hg) hn)

/-- A node of the formula is walked, unless it belongs to a property that is not computed. -/
theorem walked_of_hasNode {f g : Formula} {p q : Place} (h : f.HasNode p g q) : (g, q) ∈ f.walked p ∨
    ∃ object property r, (member object property false, r) ∈ f.walked p ∧ property.HasNode (r.child 1) g q := by
  obtain ⟨path, hg, rfl⟩ := h
  induction path generalizing g with
  | nil =>
    obtain rfl := Option.some.inj hg
    exact .inl (mem_walked_self f p)
  | cons i path ih =>
    rw [at?, Option.bind_eq_some_iff] at hg
    obtain ⟨g', hg', hi⟩ := hg
    rcases ih hg' with hw | ⟨object, property, r, hw, hn⟩
    · rcases g'.parts_or_key hi with hp | ⟨object, property, rfl, rfl, rfl⟩
      · exact .inl (walked_trans hw (mem_walked.2 (.inr ⟨i, g, hp, mem_walked_self g _⟩)))
      · exact .inr ⟨object, g, _, hw, .root g _⟩
    · exact .inr ⟨object, property, r, hw, hn.child hi⟩

theorem ne_of_mem_walkedEach {fs : List Formula} {p : Place} {i : Nat} {n : Formula × Place}
    (h : n ∈ walkedEach fs p i) : n.2 ≠ p := by
  obtain ⟨j, g, -, hn⟩ := mem_walkedEach.1 h
  obtain ⟨path, -, hp⟩ := hasNode_of_walked hn
  intro he
  rw [hp, Place.child_below] at he
  have hpath : path ++ [i + j] = [] := Place.below_injective (p := p) he
  exact absurd hpath (by simp)

theorem places_walkedEach {fs : List Formula} (h : ∀ g ∈ fs, ∀ p, ((g.walked p).map Prod.snd).Nodup)
    (p : Place) (i : Nat) : ((walkedEach fs p i).map Prod.snd).Nodup := by
  induction fs generalizing i with
  | nil => exact List.nodup_nil
  | cons f rest ih =>
    rw [walkedEach, List.map_append, List.nodup_append]
    refine ⟨h f List.mem_cons_self _, ih (fun g hg => h g (List.mem_cons_of_mem _ hg)) _, ?_⟩
    intro q hq q' hq' he
    obtain ⟨n, hn, rfl⟩ := List.mem_map.1 hq
    obtain ⟨n', hn', rfl⟩ := List.mem_map.1 hq'
    obtain ⟨j, g, -, hn'⟩ := mem_walkedEach.1 hn'
    obtain ⟨path, -, hp⟩ := hasNode_of_walked hn
    obtain ⟨path', -, hp'⟩ := hasNode_of_walked hn'
    -- the two paths start at different children
    rw [hp, hp', Place.child_below, Place.child_below] at he
    have hpath := Place.below_injective he
    obtain ⟨-, hi⟩ := List.append_inj' hpath rfl
    have hj : i = i + 1 + j := List.singleton_inj.1 hi
    omega

/-- **No two nodes are at one place.** -/
theorem walked_nodup (f : Formula) : ∀ p, ((f.walked p).map Prod.snd).Nodup := by
  induction f using induction_parts with
  | h f ih =>
    intro p
    rw [walked_eq, List.map_cons, List.nodup_cons]
    refine ⟨fun hp => ?_, places_walkedEach ih p 0⟩
    obtain ⟨n, hn, hq⟩ := List.mem_map.1 hp
    exact ne_of_mem_walkedEach hn hq

/-! ## Findings -/

/-- What is found at a node itself. -/
def found (s : Scope) : Formula → Place → Findings
  | .call callee arguments, p => .ofCall (resolveCall s callee arguments p)
  | .sequence body, p => if body.isEmpty then ⟨[], [(p, .emptySequence)], []⟩ else .none
  | .name n, p => .ofResolution (resolve s (.name n) p)
  | .member object property computed, p => .ofResolution (resolve s (.member object property computed) p)
  | .array _, _ | .binary .., _ | .conditional .., _ | .literal .., _ | .logical .., _ | .self, _
  | .unary .., _ => .none

/-- What is found at nodes, one after the other. -/
def gather (s : Scope) (nodes : List (Formula × Place)) : Findings :=
  nodes.foldr (fun n later => n.1.found s n.2 ++ later) .none

theorem gather_nil (s : Scope) : gather s [] = .none := rfl

theorem gather_cons (s : Scope) (n : Formula × Place) (nodes : List (Formula × Place)) :
    gather s (n :: nodes) = n.1.found s n.2 ++ gather s nodes := rfl

theorem gather_append (s : Scope) (nodes nodes' : List (Formula × Place)) :
    gather s (nodes ++ nodes') = gather s nodes ++ gather s nodes' := by
  induction nodes with
  | nil => rfl
  | cons n rest ih => rw [List.cons_append, gather_cons, gather_cons, ih, Findings.append_assoc]

theorem mem_reports_gather {s : Scope} {nodes : List (Formula × Place)} {r : Place × Fault} :
    r ∈ (gather s nodes).reports ↔ ∃ n ∈ nodes, r ∈ (n.1.found s n.2).reports := by
  induction nodes with
  | nil => simp [gather, Findings.none]
  | cons n rest ih =>
    have ha : (gather s (n :: rest)).reports = (n.1.found s n.2).reports ++ (gather s rest).reports := rfl
    simp only [ha, List.mem_append, ih, List.mem_cons, exists_eq_or_imp]

mutual
/-- **A survey finds what is found at the nodes**, one after the other. -/
theorem survey_eq (s : Scope) : (f : Formula) → (p : Place) → survey s f p = gather s (f.walked p)
  | .array elements, p => surveyEach_eq s elements p 0
  | .binary op l r, p => by
    rw [survey, survey_eq s l, survey_eq s r, walked, gather_cons, gather_append]
    rfl
  | .call callee arguments, p => by
    rw [survey, survey_eq s callee, surveyEach_eq s arguments, walked, gather_cons, gather_append,
      Findings.append_assoc]
    rfl
  | .sequence body, p => by
    rw [survey, surveyEach_eq s body, walked, gather_cons, found]
    cases body with
    | nil => rfl
    | cons f rest => rfl
  | .conditional t c a, p => by
    rw [survey, survey_eq s t, survey_eq s c, survey_eq s a, walked, gather_cons, gather_append, gather_append,
      Findings.append_assoc]
    rfl
  | .name n, p => (Findings.append_none _).symm
  | .literal .., _ => rfl
  | .logical op l r, p => by
    rw [survey, survey_eq s l, survey_eq s r, walked, gather_cons, gather_append]
    rfl
  | .member object property computed, p => by
    rw [survey, survey_eq s object, survey_eq s property, walked, gather_cons, gather_append, found,
      Findings.append_assoc]
    cases computed <;> rfl
  | .self, _ => rfl
  | .unary op a _, p => survey_eq s a (p.child 0)

theorem surveyEach_eq (s : Scope) : (fs : List Formula) → (p : Place) → (i : Nat) →
    surveyEach s fs p i = gather s (walkedEach fs p i)
  | [], _, _ => rfl
  | f :: rest, p, i => by
    rw [surveyEach, survey_eq s f, surveyEach_eq s rest, walkedEach, gather_append]
end

end Formula

end GatedFormula
