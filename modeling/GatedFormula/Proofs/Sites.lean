/-
  The call sites that an analysis lists.
  - `Formula.site?` is the call site of a node. An analysis lists those of the nodes it looks at, in the order of
    the walk (`calls_analyze`).
  - The nodes of a part stand together in the walk (`walked_isInfix`), wherever the part stands (`walked_below`).
  - `Descriptor.calls` are the calls that stand in a descriptor. Those in the arguments of a call site are listed
    again after it (`nestedLater_sites`).
-/
import GatedFormula.Proofs.CallSites
import GatedFormula.Proofs.Walk

namespace GatedFormula

open Static

variable {s : Scope}

namespace Formula

/-- The call site of the node at a place, if it is a call whose callee ends in a name. -/
def site? (s : Scope) : Formula → Place → Option CallSite
  | .call callee arguments, p => (resolveCall s callee arguments p).result
  | .array _, _ | .binary .., _ | .sequence _, _ | .conditional .., _ | .name _, _ | .literal .., _ | .logical .., _
  | .member .., _ | .self, _ | .unary .., _ => none

/-- The call sites of nodes, in order. -/
def sites (s : Scope) (nodes : List (Formula × Place)) : List CallSite :=
  nodes.filterMap fun n => n.1.site? s n.2

theorem sites_cons (n : Formula × Place) (nodes : List (Formula × Place)) :
    sites s (n :: nodes) = (n.1.site? s n.2).toList ++ sites s nodes := by
  cases h : n.1.site? s n.2 <;> simp [sites, h]

theorem sites_append (nodes nodes' : List (Formula × Place)) :
    sites s (nodes ++ nodes') = sites s nodes ++ sites s nodes' := List.filterMap_append ..

theorem calls_found (f : Formula) (p : Place) : (f.found s p).calls = (f.site? s p).toList := by
  cases f with
  | call callee arguments =>
    rw [found, site?]
    unfold Findings.ofCall
    cases (resolveCall s callee arguments p).result <;> rfl
  | sequence body =>
    rw [found]
    split <;> rfl
  | _ => rfl

theorem calls_gather (nodes : List (Formula × Place)) : (gather s nodes).calls = sites s nodes := by
  induction nodes with
  | nil => rfl
  | cons n rest ih =>
    have ha : (gather s (n :: rest)).calls = (n.1.found s n.2).calls ++ (gather s rest).calls := rfl
    rw [ha, calls_found, ih, sites_cons]

end Formula

open Formula

/-- **An analysis lists the call sites of the nodes it looks at**, in the order of the walk. -/
theorem calls_analyze (s : Scope) (f : Formula) (origin : Place) :
    (analyze s f origin).calls = sites s (f.walked origin) := by
  have hs : (analyze s f origin).calls = (f.survey s origin).calls := rfl
  rw [hs, survey_eq, calls_gather]

/-! ## Parts -/

namespace Formula

theorem walkedEach_isInfix {fs : List Formula} {g : Formula} {p : Place} {i j : Nat} (h : fs[j]? = some g) :
    g.walked (p.child (i + j)) <:+: walkedEach fs p i := by
  induction fs generalizing i j with
  | nil => cases h
  | cons f rest ih =>
    rw [walkedEach]
    cases j with
    | zero =>
      obtain rfl := Option.some.inj h
      exact (List.prefix_append _ _).isInfix
    | succ j =>
      have hr := ih (i := i + 1) h
      rw [Nat.succ_add_eq_add_succ] at hr
      exact hr.trans (List.suffix_append _ _).isInfix

/-- **The nodes of a part stand together in the walk.** -/
theorem walked_isInfix (f : Formula) : ∀ {p : Place} {g : Formula} {q : Place}, (g, q) ∈ f.walked p →
    g.walked q <:+: f.walked p := by
  induction f using induction_parts with
  | h f ih =>
    intro p g q hg
    rcases mem_walked.1 hg with he | ⟨j, g', hg', hn⟩
    · obtain ⟨rfl, rfl⟩ := Prod.mk.inj he
      exact List.infix_rfl
    · have hp := walkedEach_isInfix (p := p) (i := 0) hg'
      rw [Nat.zero_add] at hp
      rw [walked_eq f p]
      exact (ih g' (List.mem_of_getElem? hg') hn).trans (hp.trans (List.suffix_cons _ _).isInfix)

/-- The nodes of a formula are the same wherever it stands, with their places moved. -/
theorem walked_below (p : Place) (f : Formula) : ∀ path : List Nat,
    f.walked (p.below path) = (f.walked ⟨path⟩).map fun n => (n.1, p.below n.2.path) := by
  induction f using induction_parts with
  | h f ih =>
    intro path
    rw [walked_eq, walked_eq f ⟨path⟩, List.map_cons]
    congr 1
    generalize f.parts = parts at ih
    generalize 0 = i
    induction parts generalizing i with
    | nil => rfl
    | cons g rest ihr =>
      rw [walkedEach, walkedEach, List.map_append, ihr fun g' hg' => ih g' (List.mem_cons_of_mem _ hg')]
      congr 1
      exact ih g List.mem_cons_self (i :: path)

end Formula

/-- An analysis lists the call sites of nodes found by their paths. -/
theorem calls_below (s : Scope) (f : Formula) (p : Place) :
    (analyze s f p).calls = (f.walked ⟨[]⟩).filterMap fun n => n.1.site? s (p.below n.2.path) := by
  have hp : f.walked p = f.walked (p.below []) := rfl
  rw [calls_analyze, hp, walked_below, sites, List.filterMap_map]
  rfl

/-! ## Calls inside others -/

namespace Descriptor

mutual
/-- The calls that stand in a descriptor, at any depth of items and arguments, each before those in its arguments. -/
def calls : Descriptor → List CallSite
  | .value _ | .unknown => []
  | .array items => callsEach items
  | .call n path args => ⟨n, path, args⟩ :: callsEach args

/-- The calls that stand in several. -/
def callsEach : List Descriptor → List CallSite
  | [] => []
  | d :: rest => calls d ++ callsEach rest
end

end Descriptor

open Descriptor

open scoped List

/-- The calls that stand in the arguments of a call site come after it in the list, in order. -/
def CallSite.NestedLater : List CallSite → Prop
  | [] => True
  | site :: rest => callsEach site.args <+ rest ∧ NestedLater rest

namespace CallSite

theorem NestedLater.append {calls calls' : List CallSite} (h : NestedLater calls) (h' : NestedLater calls') :
    NestedLater (calls ++ calls') := by
  induction calls with
  | nil => exact h'
  | cons site rest ih =>
    obtain ⟨hs, hr⟩ := h
    exact ⟨hs.trans (List.sublist_append_left _ _), ih hr⟩

theorem NestedLater.sublist {before after : List CallSite} {site : CallSite}
    (h : NestedLater (before ++ site :: after)) : callsEach site.args <+ after := by
  induction before with
  | nil => exact h.1
  | cons _ before ih => exact ih h.2

end CallSite

namespace Formula

theorem result_resolve_call (callee : Formula) (arguments : List Formula) (p : Place) :
    ((call callee arguments).resolve s p).result =
      match (call callee arguments).site? s p with
      | some c => c.toDescriptor
      | none => .unknown := by
  rw [resolve, Resolution.result_bind]
  change (match (resolveCall s callee arguments p).result with
    | some c => pure c.toDescriptor
    | none => pure .unknown : Resolution Descriptor).result = _
  rw [site?]
  cases (resolveCall s callee arguments p).result <;> rfl

/-- No calls stand in what all but arrays and calls resolve to. -/
theorem calls_resolve_eq_nil {f : Formula} (ha : f.kind ≠ .array) (hc : f.kind ≠ .call) (p : Place) :
    (f.resolve s p).result.calls = [] := by
  obtain ⟨st, hfit⟩ := s.exists_fits
  rcases unknown_or_value hfit ha hc p with hu | ⟨v, hv⟩
  · rw [hu, calls]
  · rw [hv, calls]

mutual
/-- **The calls in the descriptor of a formula are call sites of its nodes**, in the same order. -/
theorem calls_resolve : (f : Formula) → (p : Place) → (f.resolve s p).result.calls <+ sites s (f.walked p)
  | .array elements, p => by
    rcases array_cases elements p with hu | ⟨_, -, hv⟩ | hi
    · rw [hu, calls]
      exact List.nil_sublist _
    · rw [hv, calls]
      exact List.nil_sublist _
    · rw [hi, calls]
      exact calls_resolveEach elements p 0
  | .call callee arguments, p => by
    rw [result_resolve_call, walked, sites_cons]
    cases hs : (call callee arguments).site? s p with
    | none => exact List.nil_sublist _
    | some site =>
      obtain ⟨-, hargs⟩ := resolveCall_eq_some hs
      have hc : callsEach site.args <+ sites s (walkedEach arguments p 1) := by
        rw [hargs]
        exact calls_resolveEach arguments p 1
      rw [sites_append]
      exact (hc.trans (List.sublist_append_right _ _)).cons_cons site
  | .name n, p => by
    rw [calls_resolve_eq_nil (by nofun) (by nofun)]
    exact List.nil_sublist _
  | .member object property computed, p => by
    rw [calls_resolve_eq_nil (by nofun) (by nofun)]
    exact List.nil_sublist _
  | .literal .., _ | .binary .., _ | .sequence _, _ | .conditional .., _ | .logical .., _ | .self, _
  | .unary .., _ => List.nil_sublist _

theorem calls_resolveEach : (fs : List Formula) → (p : Place) → (i : Nat) →
    callsEach ((resolveEach s fs p i).map Resolution.result) <+ sites s (walkedEach fs p i)
  | [], _, _ => .slnil
  | f :: rest, p, i => by
    rw [walkedEach, sites_append]
    exact (calls_resolve f (p.child i)).append (calls_resolveEach rest p (i + 1))
end

/-- **The calls in the arguments of a call site are listed after it.** -/
theorem nestedLater_sites (f : Formula) : ∀ p, CallSite.NestedLater (sites s (f.walked p)) := by
  induction f using induction_parts with
  | h f ih =>
    intro p
    have hparts : CallSite.NestedLater (sites s (walkedEach f.parts p 0)) := by
      generalize f.parts = parts at ih
      generalize 0 = i
      induction parts generalizing i with
      | nil => trivial
      | cons g rest ihr =>
        rw [walkedEach, sites_append]
        exact (ih g List.mem_cons_self _).append (ihr (fun g' hg' => ih g' (List.mem_cons_of_mem _ hg')) _)
    rw [walked_eq, sites_cons]
    cases hs : f.site? s p with
    | none => exact hparts
    | some site =>
      refine ⟨?_, hparts⟩
      cases f with
      | call callee arguments =>
        obtain ⟨-, hargs⟩ := resolveCall_eq_some hs
        have hw : sites s (walkedEach (call callee arguments).parts p 0) =
            sites s (callee.walked (p.child 0)) ++ sites s (walkedEach arguments p 1) := sites_append _ _
        change callsEach site.args <+ sites s (walkedEach (call callee arguments).parts p 0)
        rw [hargs, hw]
        exact (calls_resolveEach arguments p 1).trans (List.sublist_append_right _ _)
      | _ => cases hs

end Formula

end GatedFormula
