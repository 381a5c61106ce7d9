/-
  More context only refines what is known of a formula.
  - `Scope.ExtendedBy`: a scope knows more names, and those of the other one as before.
  - `Descriptor.RefinedBy`: what is known is kept, and what is unknown may be filled in. An unknown step of a path
    may be replaced by several (`PathRefined`).
  - What resolves to a value keeps it (`resolve_kept`); so known steps stay the same, paths are refined
    (`resolvePath_refined`), and so is all else (`resolve_refined`).
  - The call sites of an analysis are kept in order, each refined (`analyze_refined`).

  The two sides may stand at different places: then arrays that a formula makes are made at others
  (`Value.MovedTo`).
-/
import GatedFormula.Proofs.Attempts
import GatedFormula.Proofs.Sites
import Mathlib.Data.List.Forall2

namespace GatedFormula

/-! ## More context -/

/-- The second scope has the policy of the first, and if that has a context, all its names mean the same. -/
structure Scope.ExtendedBy (s s' : Scope) : Prop where
  policy : s'.policy = s.policy
  context : ∀ c, s.context = some c →
    ∃ c', s'.context = some c' ∧ ∀ n v, c.get? n = some v → c'.get? n = some v

theorem Scope.ExtendedBy.refl (s : Scope) : s.ExtendedBy s := ⟨rfl, fun c h => ⟨c, h, fun _ _ hn => hn⟩⟩

/-- A scope without a context is extended by any with its policy. -/
theorem Scope.ExtendedBy.of_none {s s' : Scope} (h : s.context = none) (hp : s'.policy = s.policy) :
    s.ExtendedBy s' :=
  ⟨hp, fun _ hc => nomatch h.symm.trans hc⟩

/-- A scope is extended by a new name in its context. -/
theorem Scope.ExtendedBy.insert {c : Context} {n : String} (h : c.get? n = none) (id : Place) (v : Value)
    (policy : Option Policy) : Scope.ExtendedBy ⟨some c, policy⟩ ⟨some (c.insert id n v), policy⟩ := by
  refine ⟨rfl, ?_⟩
  rintro _ ⟨⟩
  refine ⟨_, rfl, fun m w hm => ?_⟩
  have hne : m ≠ n := by
    rintro rfl
    cases h.symm.trans hm
  exact (OrderedMap.lookup_insertEntry_of_ne hne v c.members.entries).trans hm

/-! ## What is refined -/

/-- The same value, but for arrays made below `p` that are made below `q` instead. -/
inductive Value.MovedTo (p q : Place) : Value → Value → Prop
  | taken (v : Value) : MovedTo p q v v
  | made (path : List Nat) {vs ws : List Value} (h : List.Forall₂ (MovedTo p q) vs ws) :
      MovedTo p q (.array (p.below path) vs) (.array (q.below path) ws)

mutual
/-- At one place it is the very same. -/
theorem Value.MovedTo.eq {p : Place} {v w : Value} : v.MovedTo p p w → v = w
  | .taken _ => rfl
  | .made _ h => by rw [allEq h]

theorem Value.MovedTo.allEq {p : Place} {vs ws : List Value} : List.Forall₂ (Value.MovedTo p p) vs ws → vs = ws
  | .nil => rfl
  | .cons h hs => by rw [h.eq, allEq hs]
end

/-- A path stays, or some steps take the place of an unknown one that it starts with. -/
inductive PathRefined : List Segment → List Segment → Prop
  | same (path : List Segment) : PathRefined path path
  | opened {first : List Segment} (h : first ≠ []) (rest : List Segment) :
      PathRefined (.unknown :: rest) (first ++ rest)

namespace PathRefined

/-- Any steps may take the place of an unknown one. -/
theorem of_unknown {path : List Segment} (h : path ≠ []) : PathRefined [.unknown] path := by
  have ho := opened h []
  rwa [List.append_nil] at ho

theorem concat {path path' : List Segment} (h : PathRefined path path') (step : Segment) :
    PathRefined (path ++ [step]) (path' ++ [step]) := by
  cases h with
  | same => exact .same _
  | opened h rest =>
    rw [List.append_assoc]
    exact .opened h _

/-- A known step at the end stays there. -/
theorem of_concat {outer path' : List Segment} {step : Segment} (h : PathRefined (outer ++ [step]) path')
    (hs : step.isUnknown = false) : ∃ outer', path' = outer' ++ [step] ∧ PathRefined outer outer' := by
  generalize hp : outer ++ [step] = path at h
  cases h with
  | same => exact ⟨outer, hp.symm, .same _⟩
  | @opened first h rest =>
    cases outer with
    | nil =>
      obtain ⟨rfl, -⟩ := List.cons.inj hp
      cases hs
    | cons x outer =>
      obtain ⟨rfl, rfl⟩ := List.cons.inj hp
      exact ⟨first ++ outer, (List.append_assoc ..).symm, .opened h _⟩

end PathRefined

/-- What is known of an argument is kept, with values related by `R`, and what is unknown may be anything. -/
inductive Descriptor.RefinedBy (R : Value → Value → Prop) : Descriptor → Descriptor → Prop
  | unknown (d : Descriptor) : RefinedBy R .unknown d
  | value {v w : Value} (h : R v w) : RefinedBy R (.value v) (.value w)
  | array {items items' : List Descriptor} (h : List.Forall₂ (RefinedBy R) items items') :
      RefinedBy R (.array items) (.array items')
  | call {name : String} {path path' : List Segment} {args args' : List Descriptor} (hp : PathRefined path path')
      (ha : List.Forall₂ (RefinedBy R) args args') : RefinedBy R (.call name path args) (.call name path' args')

/-- A call site is kept: its name stays, its path and its arguments are refined. -/
structure CallSite.RefinedBy (R : Value → Value → Prop) (c c' : CallSite) : Prop where
  name : c'.name = c.name
  path : PathRefined c.path c'.path
  args : List.Forall₂ (Descriptor.RefinedBy R) c.args c'.args

theorem CallSite.RefinedBy.toDescriptor {R : Value → Value → Prop} {c c' : CallSite} (h : c.RefinedBy R c') :
    c.toDescriptor.RefinedBy R c'.toDescriptor := by
  obtain ⟨name, path, args⟩ := c
  obtain ⟨name', path', args'⟩ := c'
  obtain ⟨rfl, hp, ha⟩ := h
  exact .call hp ha

namespace Descriptor

variable {R R' : Value → Value → Prop}

mutual
theorem RefinedBy.mono (hR : ∀ v w, R v w → R' v w) {d d' : Descriptor} : d.RefinedBy R d' → d.RefinedBy R' d'
  | .unknown d => .unknown d
  | .value h => .value (hR _ _ h)
  | .array h => .array (RefinedBy.allMono hR h)
  | .call hp ha => .call hp (RefinedBy.allMono hR ha)

theorem RefinedBy.allMono (hR : ∀ v w, R v w → R' v w) {ds ds' : List Descriptor} :
    List.Forall₂ (RefinedBy R) ds ds' → List.Forall₂ (RefinedBy R') ds ds'
  | .nil => .nil
  | .cons h hs => .cons (h.mono hR) (RefinedBy.allMono hR hs)
end

/-- What is known does not become unknown. -/
theorem RefinedBy.known {d d' : Descriptor} (h : d.RefinedBy R d') (hd : d.isUnknown = false) :
    d'.isUnknown = false := by
  cases h with
  | unknown => cases hd
  | _ => rfl

theorem all_known {ds ds' : List Descriptor} (h : List.Forall₂ (RefinedBy R) ds ds')
    (hd : ∀ d ∈ ds, d.isUnknown = false) : ∀ d ∈ ds', d.isUnknown = false := by
  induction h with
  | nil => exact hd
  | cons h _ ih =>
    rw [List.forall_mem_cons] at hd ⊢
    exact ⟨h.known hd.1, ih hd.2⟩

theorem RefinedBy.of_value {v : Value} {d : Descriptor} (h : (Descriptor.value v).RefinedBy R d) :
    ∃ w, d = .value w ∧ R v w := by
  cases h with
  | value h => exact ⟨_, rfl, h⟩

/-- Only values become values, once nothing is unknown. -/
theorem RefinedBy.to_value {d : Descriptor} {w : Value} (h : d.RefinedBy R (.value w)) (hd : d.isUnknown = false) :
    ∃ v, d = .value v := by
  cases h with
  | unknown => cases hd
  | value => exact ⟨_, rfl⟩

/-- Values are refined by values. -/
theorem values_refined {vs : List Value} {ds : List Descriptor}
    (h : List.Forall₂ (RefinedBy R) (vs.map .value) ds) : ∃ ws, ds = ws.map .value ∧ List.Forall₂ R vs ws := by
  induction vs generalizing ds with
  | nil =>
    cases h
    exact ⟨[], rfl, .nil⟩
  | cons v vs ih =>
    obtain _ | ⟨hv, hr⟩ := h
    obtain ⟨w, rfl, hw⟩ := hv.of_value
    obtain ⟨ws, rfl, hws⟩ := ih hr
    exact ⟨w :: ws, rfl, .cons hw hws⟩

/-- If nothing is unknown, only values are refined by values. -/
theorem values_of_refined {ds : List Descriptor} {ws : List Value} (hd : ∀ d ∈ ds, d.isUnknown = false)
    (h : List.Forall₂ (RefinedBy R) ds (ws.map .value)) : ∃ vs : List Value, ds = vs.map .value := by
  induction ds generalizing ws with
  | nil => exact ⟨[], rfl⟩
  | cons d ds ih =>
    obtain _ | ⟨w, ws⟩ := ws
    · cases h
    · obtain _ | ⟨hv, hr⟩ := h
      obtain ⟨v, rfl⟩ := hv.to_value (hd d List.mem_cons_self)
      obtain ⟨vs, rfl⟩ := ih (fun d hm => hd d (List.mem_cons_of_mem _ hm)) hr
      exact ⟨v :: vs, rfl⟩

/-- An array made of known items is refined by one made of refined items. -/
theorem ofItems_refined {p q : Place} (path : List Nat) {items items' : List Descriptor}
    (hd : ∀ d ∈ items, d.isUnknown = false) (h : List.Forall₂ (RefinedBy (Value.MovedTo p q)) items items') :
    (ofItems (p.below path) items).RefinedBy (Value.MovedTo p q) (ofItems (q.below path) items') := by
  rcases ofItems_cases (p.below path) items with ⟨vs, rfl, hv⟩ | ha
  · obtain ⟨ws, rfl, hw⟩ := values_refined h
    rw [hv, ofItems_map]
    exact .value (.made path hw)
  · rcases ofItems_cases (q.below path) items' with ⟨ws, rfl, -⟩ | ha'
    · -- the items would be values, and the array too
      obtain ⟨vs, rfl⟩ := values_of_refined hd h
      cases (ofItems_map _ vs).symm.trans ha
    · rw [ha, ha']
      exact .array h

end Descriptor

theorem CallSite.RefinedBy.mono {R R' : Value → Value → Prop} (hR : ∀ v w, R v w → R' v w) {c c' : CallSite}
    (h : c.RefinedBy R c') : c.RefinedBy R' c' :=
  ⟨h.name, h.path, Descriptor.RefinedBy.allMono hR h.args⟩

/-! ## Resolving in both scopes -/

namespace Static

open Descriptor

variable {s s' : Scope} {p q : Place}

theorem any_isUnknown (rs : List (Resolution Descriptor)) :
    (rs.any fun r => r.result.isUnknown) = (rs.map Resolution.result).any isUnknown := by
  rw [List.any_map]
  rfl

theorem arrayOf_refined (path : List Nat) {rs rs' : List (Resolution Descriptor)}
    (h : List.Forall₂ (RefinedBy (Value.MovedTo p q)) (rs.map Resolution.result) (rs'.map Resolution.result)) :
    (arrayOf (p.below path) [] rs).result.RefinedBy (Value.MovedTo p q) (arrayOf (q.below path) [] rs').result := by
  rw [arrayOf_result, arrayOf_result, any_isUnknown, any_isUnknown]
  generalize rs.map Resolution.result = items at h
  generalize rs'.map Resolution.result = items' at h
  by_cases hu : items.any isUnknown
  · rw [if_pos hu]
    exact .unknown _
  · have hd : ∀ d ∈ items, d.isUnknown = false := by simpa using hu
    have hu' : ¬ items'.any isUnknown = true := by simpa using all_known h hd
    rw [if_neg hu, if_neg hu']
    exact ofItems_refined path hd h

theorem nameOf_kept (h : s.ExtendedBy s') {n : String} {v : Value} (hv : (nameOf s n p).result = .value v) :
    (nameOf s' n q).result = .value v := by
  unfold nameOf at hv ⊢
  cases hc : s.context with
  | none =>
    rw [hc] at hv
    cases hv
  | some c =>
    obtain ⟨c', hc', hn⟩ := h.context c hc
    simp only [hc] at hv
    simp only [hc']
    cases hg : c.get? n with
    | none =>
      simp only [hg] at hv
      cases hv
    | some w =>
      simp only [hg] at hv
      rw [hn n w hg]
      exact hv

theorem objectOf_kept {object : Formula} {r r' : Resolution Descriptor}
    (h : object.kind ≠ .array → ∀ v, r.result = .value v → r'.result = .value v) {v : Value}
    (hv : (objectOf object r).result = .value v) : (objectOf object r').result = .value v := by
  cases object with
  | member => exact h (by simp [Formula.kind]) v hv
  | name => exact h (by simp [Formula.kind]) v hv
  | _ => cases hv

/-- A member that resolves keeps its value if its step and its object are kept. -/
theorem memberOf_kept (h : s.ExtendedBy s') {step step' : Resolution Segment} {object object' : Resolution Descriptor}
    (hs : step.result.isUnknown = false → step'.result = step.result)
    (ho : ∀ v, object.result = .value v → object'.result = .value v) {m : Value}
    (hm : (memberOf s step object p).result = .value m) : (memberOf s' step' object' q).result = .value m := by
  obtain ⟨c, v, k, hc, ht, hr⟩ := memberOf_eq_value hm
  obtain ⟨hk, hv, hd⟩ := target?_eq_some_iff.1 ht
  obtain ⟨c', hc', -⟩ := h.context c hc
  have hk' : step'.result.key? = some k := by rw [hs (Segment.isUnknown_of_key? hk), hk]
  rw [← h.policy] at hr
  exact memberOf_of_target? hc' (target?_eq_some_iff.2 ⟨hk', ho v hv, hd⟩) hr q

theorem pathOf_ne_nil (step : Resolution Segment) (object : Resolution (List Segment)) :
    (pathOf step object).result ≠ [] := by
  rcases pathOf_cases step object with ⟨hp, -⟩ | ⟨hp, -⟩ <;> rw [hp] <;> simp

/-- A path is refined if its last step is kept and the steps before it are refined. -/
theorem pathOf_refined {step step' : Resolution Segment} {object object' : Resolution (List Segment)}
    (hs : step.result.isUnknown = false → step'.result = step.result)
    (ho : PathRefined object.result object'.result) :
    PathRefined (pathOf step object).result (pathOf step' object').result := by
  rcases pathOf_cases step object with ⟨hp, hu⟩ | ⟨hp, hu⟩
  · rw [hp, Segment.eq_unknown hu]
    exact .of_unknown (pathOf_ne_nil step' object')
  · rcases pathOf_cases step' object' with ⟨-, hu'⟩ | ⟨hp', -⟩
    · rw [hs hu, hu] at hu'
      cases hu'
    · rw [hp, hp', hs hu]
      exact ho.concat _

end Static

namespace Formula

open Static Descriptor

variable {s s' : Scope}

/-- A known step is kept if the value of its key is. -/
theorem stepOf_kept {computed : Bool} {property : Formula} {p q : Place}
    (h : property.kind ≠ .array → ∀ v, (property.resolve s p).result = .value v →
      (property.resolve s' q).result = .value v)
    (hu : (stepOf computed property (property.resolve s p)).result.isUnknown = false) :
    (stepOf computed property (property.resolve s' q)).result =
      (stepOf computed property (property.resolve s p)).result := by
  cases computed with
  | false => rfl
  | true =>
    obtain ⟨v, hv⟩ := exists_value_of_stepOf hu
    have ha : property.kind ≠ .array := by
      cases property with
      | array elements =>
        rw [stepOf_of_value hv] at hu
        rcases array_cases elements p with hr | ⟨_, -, hr⟩ | hr
        · cases hr.symm.trans hv
        · cases hr.symm.trans hv
          cases hu
        · cases hr.symm.trans hv
      | _ => simp [kind]
    rw [stepOf_of_value hv, stepOf_of_value (h ha v hv)]

/-- **Whatever resolves to a value keeps it**, but for arrays, which are made anew. -/
theorem resolve_kept (h : s.ExtendedBy s') : (f : Formula) → (p q : Place) → f.kind ≠ .array → ∀ v,
    (f.resolve s p).result = .value v → (f.resolve s' q).result = .value v
  | .literal .., _, _, _, _, hv => hv
  | .name _, _, _, _, _, hv => nameOf_kept h hv
  | .member object property _, p, q, _, _, hv =>
    memberOf_kept h (stepOf_kept (resolve_kept h property (p.child 1) (q.child 1)))
      (fun _ => objectOf_kept (resolve_kept h object (p.child 0) (q.child 0))) hv
  | .call callee arguments, p, _, _, _, hv => by
    rw [result_resolve_call] at hv
    cases hs : (call callee arguments).site? s p <;> rw [hs] at hv <;> cases hv
  | .array _, _, _, ha, _, _ => absurd rfl ha

/-- **The path of a callee is refined.** -/
theorem resolvePath_refined (h : s.ExtendedBy s') : (f : Formula) → (p q : Place) →
    PathRefined (resolvePath s f p).result (resolvePath s' f q).result
  | .member object property _, p, q =>
    pathOf_refined (stepOf_kept (resolve_kept h property (p.child 1) (q.child 1)))
      (resolvePath_refined h object (p.child 0) (q.child 0))
  | .name _, _, _ | .array _, _, _ | .binary .., _, _ | .call .., _, _ | .sequence _, _, _ | .conditional .., _, _
  | .literal .., _, _ | .logical .., _, _ | .self, _, _ | .unary .., _, _ => .same _

/-- A call site is kept if what is known of its arguments is refined. -/
theorem resolveCall_refined {R : Value → Value → Prop} (h : s.ExtendedBy s') {callee : Formula}
    {arguments : List Formula} {p q : Place}
    (ha : List.Forall₂ (RefinedBy R) ((resolveEach s arguments p 1).map Resolution.result)
      ((resolveEach s' arguments q 1).map Resolution.result)) {c : CallSite}
    (hc : (resolveCall s callee arguments p).result = some c) :
    ∃ c', (resolveCall s' callee arguments q).result = some c' ∧ c.RefinedBy R c' := by
  obtain ⟨hp, hargs⟩ := resolveCall_eq_some hc
  have hpath := resolvePath_refined h callee (p.child 0) (q.child 0)
  rw [hp] at hpath
  obtain ⟨outer, ho, hr⟩ := hpath.of_concat rfl
  exact ⟨_, siteOf_of_concat ho _, rfl, hr, hargs ▸ ha⟩

/-- What is no array and no call is refined if it is kept. -/
theorem refined_of_kept {R : Value → Value → Prop} (hR : ∀ v, R v v) (h : s.ExtendedBy s') {f : Formula}
    (ha : f.kind ≠ .array) (hc : f.kind ≠ .call) (p q : Place) :
    (f.resolve s p).result.RefinedBy R (f.resolve s' q).result := by
  obtain ⟨st, hfit⟩ := s.exists_fits
  rcases unknown_or_value hfit ha hc p with hu | ⟨v, hv⟩
  · rw [hu]
    exact .unknown _
  · rw [hv, resolve_kept h f p q ha v hv]
    exact .value (hR v)

mutual
/-- **What is known of a formula is refined.** -/
theorem resolve_refined (h : s.ExtendedBy s') (p q : Place) : (f : Formula) → (path : List Nat) →
    (f.resolve s (p.below path)).result.RefinedBy (Value.MovedTo p q) (f.resolve s' (q.below path)).result
  | .array elements, path => arrayOf_refined path (resolveEach_refined h p q elements path 0)
  | .call callee arguments, path => by
    rw [result_resolve_call, result_resolve_call]
    cases hc : (call callee arguments).site? s (p.below path) with
    | none => exact .unknown _
    | some c =>
      obtain ⟨c', hc', hr⟩ := resolveCall_refined h (resolveEach_refined h p q arguments path 1) hc
      rw [site?, hc']
      exact hr.toDescriptor
  | .name _, _ | .literal .., _ | .member .., _ => refined_of_kept .taken h (by nofun) (by nofun) _ _
  | .binary .., _ | .sequence _, _ | .conditional .., _ | .logical .., _ | .self, _ | .unary .., _ => .unknown _

theorem resolveEach_refined (h : s.ExtendedBy s') (p q : Place) : (fs : List Formula) → (path : List Nat) →
    (i : Nat) → List.Forall₂ (RefinedBy (Value.MovedTo p q))
      ((resolveEach s fs (p.below path) i).map Resolution.result)
      ((resolveEach s' fs (q.below path) i).map Resolution.result)
  | [], _, _ => .nil
  | f :: rest, path, i => .cons (resolve_refined h p q f (i :: path)) (resolveEach_refined h p q rest path (i + 1))
end

/-- The call site of a node is kept. -/
theorem site?_refined (h : s.ExtendedBy s') (p q : Place) {f : Formula} {path : List Nat} {c : CallSite}
    (hc : f.site? s (p.below path) = some c) :
    ∃ c', f.site? s' (q.below path) = some c' ∧ c.RefinedBy (Value.MovedTo p q) c' := by
  cases f with
  | call callee arguments => exact resolveCall_refined h (resolveEach_refined h p q arguments path 1) hc
  | _ => cases hc

/-- At one place, its values are the very same. -/
theorem site?_kept (h : s.ExtendedBy s') {f : Formula} {p : Place} {c : CallSite} (hc : f.site? s p = some c) :
    ∃ c', f.site? s' p = some c' ∧ c.RefinedBy (· = ·) c' := by
  have hp : f.site? s (p.below []) = some c := hc
  obtain ⟨c', hc', hr⟩ := site?_refined h p p hp
  exact ⟨c', hc', hr.mono fun _ _ => Value.MovedTo.eq⟩

end Formula

/-! ## Lists of call sites -/

/-- What is picked from a list is kept in order, if whatever is picked first is picked again and related. -/
theorem sublistForall₂_filterMap {α β : Type} {R : β → β → Prop} {f g : α → Option β}
    (h : ∀ a b, f a = some b → ∃ b', g a = some b' ∧ R b b') (l : List α) :
    List.SublistForall₂ R (l.filterMap f) (l.filterMap g) := by
  induction l with
  | nil => exact .nil
  | cons a l ih =>
    cases hf : f a with
    | some b =>
      obtain ⟨b', hg, hb⟩ := h a b hf
      rw [List.filterMap_cons_some hf, List.filterMap_cons_some hg]
      exact .cons hb ih
    | none =>
      rw [List.filterMap_cons_none hf]
      cases hg : g a with
      | some b' =>
        rw [List.filterMap_cons_some hg]
        exact .cons_right ih
      | none =>
        rw [List.filterMap_cons_none hg]
        exact ih

/-- **More context only refines the call sites of a formula.** Those that are known with less context are known
with more, in the same order, each with its name and its number of arguments. What was known of its path and of
its arguments stays; other call sites may come in between. -/
theorem analyze_refined {s s' : Scope} (h : s.ExtendedBy s') (f : Formula) (origin : Place) :
    List.SublistForall₂ (CallSite.RefinedBy (· = ·)) (analyze s f origin).calls (analyze s' f origin).calls := by
  rw [calls_analyze, calls_analyze]
  exact sublistForall₂_filterMap (fun n c hc => Formula.site?_kept h hc) _

/-- What is known of `box[key].echo(key, "a", [box[key]("a")])` without a context is refined in one without `key`, and
again in one with `key`, which opens the path of the outer call site, fills in its arguments and makes the inner one
known. -/
theorem analyze_refined_key :
    let c : Context := ⟨.root 0, ⟨[("box", .record (.root 1) [])], by simp⟩⟩
    let s : Scope := ⟨some c, none⟩
    let s' : Scope := ⟨some (c.insert (.root 2) "key" (.text "left")), none⟩
    let callee : Formula := .member (.name "box") (.name "key") true
    let f : Formula := .call (.member callee (.name "echo") false)
      [.name "key", .literal (.text "a") none, .array [.call callee [.literal (.text "a") none]]]
    let inner : CallSite := ⟨"left", [.name "box"], [.value (.text "a")]⟩
    (Scope.ExtendedBy ⟨none, none⟩ s ∧ List.SublistForall₂ (CallSite.RefinedBy (· = ·))
      (analyze ⟨none, none⟩ f (.root 3)).calls (analyze s f (.root 3)).calls) ∧
    s.ExtendedBy s' ∧
      (analyze s f (.root 3)).calls = [⟨"echo", [.unknown], [.unknown, .value (.text "a"), .unknown]⟩] ∧
      (analyze s' f (.root 3)).calls = [⟨"echo", [.name "box", .name "left"],
        [.value (.text "left"), .value (.text "a"), .array [inner.toDescriptor]]⟩, inner] ∧
      List.SublistForall₂ (CallSite.RefinedBy (· = ·)) (analyze s f (.root 3)).calls
        (analyze s' f (.root 3)).calls := by
  intro c s s' callee f inner
  have hnone : Scope.ExtendedBy ⟨none, none⟩ s := .of_none rfl rfl
  have h : s.ExtendedBy s' := .insert (n := "key") rfl _ _ _
  exact ⟨⟨hnone, analyze_refined hnone f (.root 3)⟩, h, rfl, rfl, analyze_refined h f (.root 3)⟩

end GatedFormula
