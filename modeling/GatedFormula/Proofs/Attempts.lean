/-
  The reads that an analysis attempts.
  - `Formula.attempt?` is the read that a node is resolved by: of what, and by which key.
  - `Scope.Alike`: two scopes have the same context and let the same be read wherever nodes attempt to read.
  - Formulas resolve the same in both (`resolve_congr`), so their analyses are the same too (`analyzed_congr`).
    To an analysis, a policy matters in no other way.
-/
import GatedFormula.Proofs.Resolution
import GatedFormula.Proofs.Walk

namespace GatedFormula

namespace Static

variable {s s' : Scope}

/-- The read that a step and an object come to, if there is a key and something to read of. -/
def target? (step : Segment) (object : Descriptor) : Option (Value × Key) :=
  step.key?.bind fun k => object.value?.bind fun v => if v.isUndefined then none else some (v, k)

theorem target?_eq_some_iff {step : Segment} {object : Descriptor} {v : Value} {k : Key} :
    target? step object = some (v, k) ↔ step.key? = some k ∧ object = .value v ∧ v.isUndefined = false := by
  rw [target?]
  cases step.key? with
  | none => simp
  | some k' =>
    cases object with
    | value w =>
      by_cases hw : w.isUndefined
      · simp only [Descriptor.value?, Option.bind_some, if_pos hw, reduceCtorEq, false_iff]
        rintro ⟨-, ⟨⟩, hd⟩
        cases hw.symm.trans hd
      · simp only [Descriptor.value?, Option.bind_some, if_neg hw]
        constructor
        · rintro ⟨⟩
          exact ⟨rfl, rfl, Bool.eq_false_iff.2 hw⟩
        · rintro ⟨⟨⟩, ⟨⟩, -⟩
          rfl
    | _ => simp [Descriptor.value?]

theorem bind_congr_result {α β : Type} {r : Resolution α} {f g : α → Resolution β}
    (h : f r.result = g r.result) : r >>= f = r >>= g := by
  change Resolution.bind r f = Resolution.bind r g
  rw [Resolution.bind, Resolution.bind, h]

theorem stepOf_congr {computed : Bool} {property : Formula} {r r' : Resolution Descriptor}
    (h : computed = true → r' = r) : stepOf computed property r' = stepOf computed property r := by
  cases computed with
  | true => rw [h rfl]
  | false => rfl

theorem readOf_congr {object : Descriptor} {k : Key} (p : Place)
    (h : ∀ v, object = .value v → v.isUndefined = false →
      readMember s'.policy v k = readMember s.policy v k) : readOf s' object k p = readOf s object k p := by
  cases object with
  | value v =>
    unfold readOf
    by_cases hu : v.isUndefined
    · simp only [if_pos hu]
    · simp only [h v rfl (Bool.eq_false_iff.2 hu)]
  | _ => rfl

/-- A member resolves the same wherever the read it comes to gives the same. -/
theorem memberOf_congr (hc : s'.context = s.context) {step : Resolution Segment}
    {object : Resolution Descriptor} (p : Place)
    (h : ∀ v k, target? step.result object.result = some (v, k) →
      readMember s'.policy v k = readMember s.policy v k) :
    memberOf s' step object p = memberOf s step object p := by
  have hr (k : Key) (hk : step.result.key? = some k) :
      readOf s' object.result k p = readOf s object.result k p := by
    exact readOf_congr p fun v hv hu => h v k (target?_eq_some_iff.2 ⟨hk, hv, hu⟩)
  unfold memberOf
  rw [hc]
  cases s.context with
  | none => rfl
  | some c =>
    refine bind_congr_result ?_
    cases hs : step.result with
    | unknown => rfl
    | boolean => rfl
    | name n => exact bind_congr_result (hr (.name n) (by rw [hs]; rfl))
    | number x => exact bind_congr_result (hr (.number x) (by rw [hs]; rfl))

/-- A member resolves to what is read of a known object by a known key. -/
theorem memberOf_of_target? {c : Context} (hc : s.context = some c) {step : Resolution Segment}
    {object : Resolution Descriptor} {v m : Value} {k : Key}
    (ht : target? step.result object.result = some (v, k)) (hm : readMember s.policy v k = .ok m) (p : Place) :
    (memberOf s step object p).result = .value m := by
  obtain ⟨hk, hv, hd⟩ := target?_eq_some_iff.1 ht
  obtain ⟨step, _, _⟩ := step
  obtain ⟨object, _, _⟩ := object
  obtain rfl : object = .value v := hv
  have hread (q : Place) : (readOf s (.value v) k q).result = .value m := by
    simp only [readOf, hd, hm]
    rfl
  unfold memberOf
  rw [hc]
  cases step with
  | name n => cases hk; exact hread p
  | number x => cases hk; exact hread p
  | _ => cases hk

/-- A member that resolves is read of a known object by a known key. -/
theorem memberOf_eq_value {step : Resolution Segment} {object : Resolution Descriptor} {p : Place} {m : Value}
    (h : (memberOf s step object p).result = .value m) : ∃ c v k, s.context = some c ∧
      target? step.result object.result = some (v, k) ∧ readMember s.policy v k = .ok m := by
  cases hc : s.context with
  | none =>
    unfold memberOf at h
    rw [hc] at h
    cases h
  | some c =>
    have hfit : s.Fits ⟨c, s.policy, default⟩ := .inr ⟨hc, rfl⟩
    rcases memberOf_cases hfit step object p with hu | ⟨k, v, m', hk, hv, hd, hm, hr⟩
    · cases hu.symm.trans h
    · cases hr.symm.trans h
      exact ⟨c, v, k, rfl, target?_eq_some_iff.2 ⟨hk, hv, hd⟩, hm⟩

end Static

namespace Formula

open Static

/-- The read that the node at a place is resolved by: of what, and by which key. -/
def attempt? (s : Scope) : Formula → Place → Option (Value × Key)
  | .member object property computed, p =>
    target? (stepOf computed property (resolve s property (p.child 1))).result
      (objectOf object (resolve s object (p.child 0))).result
  | _, _ => none

/-- Without a context nothing is read. -/
theorem attempt?_of_none {s : Scope} (h : s.context = none) (f : Formula) (p : Place) : f.attempt? s p = none := by
  cases f with
  | member object property computed =>
    have ho : (objectOf object (resolve s object (p.child 0))).result.value? = none := by
      cases object with
      | name n => simp only [objectOf, resolve, nameOf, h]; rfl
      | member => simp only [objectOf, resolve, memberOf, h]; rfl
      | _ => rfl
    rw [attempt?, target?, ho]
    cases (stepOf computed property (resolve s property (p.child 1))).result.key? <;> rfl
  | _ => rfl

end Formula

/-- Two scopes have the same context, and what the nodes attempt to read in the first reads the same in both. -/
structure Scope.Alike (s s' : Scope) (nodes : List (Formula × Place)) : Prop where
  context : s'.context = s.context
  read : ∀ n ∈ nodes, ∀ v k, n.1.attempt? s n.2 = some (v, k) →
    readMember s'.policy v k = readMember s.policy v k

theorem Scope.Alike.mono {s s' : Scope} {nodes nodes' : List (Formula × Place)} (h : s.Alike s' nodes)
    (hn : nodes' ⊆ nodes) : s.Alike s' nodes' :=
  ⟨h.context, fun n hm => h.read n (hn hm)⟩

namespace Formula

open Static

variable {s s' : Scope}

mutual
/-- **Formulas resolve the same where what is read is the same.** -/
theorem resolve_congr : (f : Formula) → {p : Place} → s.Alike s' (f.walked p) →
    resolve s' f p = resolve s f p
  | .literal .., _, _ => rfl
  | .name n, p, h => by simp only [resolve, nameOf, h.context]
  | .member object property computed, p, h => by
    have hs : stepOf computed property (resolve s' property (p.child 1)) =
        stepOf computed property (resolve s property (p.child 1)) :=
      stepOf_congr fun hc => resolve_congr property (h.mono (by simp [walked, hc]))
    rw [resolve, hs, resolve_congr object (h.mono (by simp [walked]))]
    exact memberOf_congr h.context p fun v k hv => h.read _ (mem_walked_self _ p) v k hv
  | .array elements, p, h => by
    rw [resolve, resolveEach_congr elements (h.mono (by simp [walked])), resolve]
  | .call callee arguments, p, h => by
    rw [resolve, resolvePath_congr callee (h.mono (by simp [walked])),
      resolveEach_congr arguments (h.mono (by simp [walked])), resolve]
  | .binary .., _, _ | .sequence _, _, _ | .conditional .., _, _ | .logical .., _, _ | .self, _, _
  | .unary .., _, _ => rfl

theorem resolveEach_congr : (fs : List Formula) → {p : Place} → {i : Nat} →
    s.Alike s' (walkedEach fs p i) → resolveEach s' fs p i = resolveEach s fs p i
  | [], _, _, _ => rfl
  | f :: rest, p, i, h => by
    rw [resolveEach, resolve_congr f (h.mono (by simp [walkedEach])),
      resolveEach_congr rest (h.mono (by simp [walkedEach])), resolveEach]

theorem resolvePath_congr : (f : Formula) → {p : Place} → s.Alike s' (f.walked p) →
    resolvePath s' f p = resolvePath s f p
  | .name n, _, _ => rfl
  | .member object property computed, p, h => by
    have hs : stepOf computed property (resolve s' property (p.child 1)) =
        stepOf computed property (resolve s property (p.child 1)) :=
      stepOf_congr fun hc => resolve_congr property (h.mono (by simp [walked, hc]))
    rw [resolvePath, hs, resolvePath_congr object (h.mono (by simp [walked])), resolvePath]
  | .array _, _, _ | .binary .., _, _ | .call .., _, _ | .sequence _, _, _ | .conditional .., _, _
  | .literal .., _, _ | .logical .., _, _ | .self, _, _ | .unary .., _, _ => rfl
end

theorem found_congr {f : Formula} {p : Place} (h : s.Alike s' (f.walked p)) : f.found s' p = f.found s p := by
  cases f with
  | name n => exact congrArg Findings.ofResolution (resolve_congr _ h)
  | member object property computed => exact congrArg Findings.ofResolution (resolve_congr _ h)
  | call callee arguments =>
    have hc : resolveCall s' callee arguments p = resolveCall s callee arguments p := by
      rw [resolveCall, resolvePath_congr callee (h.mono (by simp [walked])),
        resolveEach_congr arguments (h.mono (by simp [walked])), resolveCall]
    exact congrArg Findings.ofCall hc
  | _ => rfl

theorem gather_congr {nodes : List (Formula × Place)} (h : ∀ n ∈ nodes, n.1.found s' n.2 = n.1.found s n.2) :
    gather s' nodes = gather s nodes := by
  induction nodes with
  | nil => rw [gather_nil, gather_nil]
  | cons n rest ih =>
    have hn := h n List.mem_cons_self
    have hr := ih fun m hm => h m (List.mem_cons_of_mem _ hm)
    rw [gather_cons, gather_cons, hn, hr]

end Formula

/-- **An analysis is the same where what is read is the same**, and so is its journal. -/
theorem analyzed_congr {s s' : Scope} {f : Formula} {origin : Place} (h : s.Alike s' (f.walked origin)) :
    analyzed s' f origin = analyzed s f origin := by
  have hs : f.survey s' origin = f.survey s origin := by
    rw [Formula.survey_eq, Formula.survey_eq]
    exact Formula.gather_congr fun n hn =>
      Formula.found_congr (h.mono fun m hm => Formula.walked_trans hn hm)
  rw [analyzed, hs, analyzed]

end GatedFormula
