/-
  What a formula resolves to is what it evaluates to.
  - `Formula.Twin` relates a value that a formula resolves to and the one it evaluates to. The arrays that
    the formula makes are made anew; all else is the very same.
  - `Formula.Describes`: a value is as a descriptor says.
  - `Formula.Foretells`: a descriptor describes every value that plain evaluation can give, and if it is a
    value, plain evaluation gives one, without any call.
  - `Formula.resolve_foretells`: resolving foretells plain evaluation, in a scope that fits the setting.
-/
import GatedFormula.Proofs.Launch
import GatedFormula.Static.Resolver

namespace GatedFormula

/-- The scope has the context and the policy of the setting, or no context at all. -/
def Scope.Fits (scope : Scope) (s : Setting) : Prop :=
  scope.context = none ∨ scope.context = some s.context ∧ scope.policy = s.policy

/-- The scope that has the context and the policy of a setting. -/
def Setting.scope (s : Setting) : Scope := ⟨some s.context, s.policy⟩

theorem Setting.fits_scope (s : Setting) : s.scope.Fits s := .inr ⟨rfl, rfl⟩

/-- Every scope fits some setting. -/
theorem Scope.exists_fits (scope : Scope) : ∃ s : Setting, scope.Fits s := by
  obtain ⟨_ | c, policy⟩ := scope
  · exact ⟨default, .inl rfl⟩
  · exact ⟨⟨c, policy, default⟩, .inr ⟨rfl, rfl⟩⟩

/-- The key that a step stands for. -/
def Segment.key? : Segment → Option Key
  | .name n => some (.name n)
  | .number x => some (.number x)
  | .boolean _ | .unknown => none

theorem Segment.eq_unknown {step : Segment} (h : step.isUnknown = true) : step = .unknown := by
  cases step with
  | unknown => rfl
  | _ => cases h

theorem Segment.isUnknown_of_key? {step : Segment} {k : Key} (h : step.key? = some k) : step.isUnknown = false := by
  cases step with
  | unknown => cases h
  | _ => rfl

namespace Formula

mutual
/-- A value that a formula resolves to at the place `p`, and the one that it evaluates to at the place `q`. -/
inductive Twin : Formula → Place → Place → Value → Value → Prop
  | taken {f p q v} (h : f.kind ≠ .array) : Twin f p q v v
  | made {elements p q vs ws} (h : Twins elements p q 0 vs ws) :
      Twin (.array elements) p q (.array p vs) (.array q ws)

/-- The same for formulas at children of places, from a number on. -/
inductive Twins : List Formula → Place → Place → Nat → List Value → List Value → Prop
  | nil {p q i} : Twins [] p q i [] []
  | cons {f rest p q i v w vs ws} (h : Twin f (p.child i) (q.child i) v w)
      (hr : Twins rest p q (i + 1) vs ws) : Twins (f :: rest) p q i (v :: vs) (w :: ws)
end

mutual
/-- A value that a formula evaluates to at the place `q` is as it was described at the place `p`. -/
inductive Describes : Formula → Place → Place → Descriptor → Value → Prop
  | value {f p q v w} (h : Twin f p q v w) : Describes f p q (.value v) w
  | array {elements p q items ws} (h : DescribesAll elements p q 0 items ws) :
      Describes (.array elements) p q (.array items) (.array q ws)
  | call {f p q name path args w} (h : f.kind = .call) : Describes f p q (.call name path args) w
  | unknown {f p q w} : Describes f p q .unknown w

/-- The same for formulas at children of places, from a number on. -/
inductive DescribesAll : List Formula → Place → Place → Nat → List Descriptor → List Value → Prop
  | nil {p q i} : DescribesAll [] p q i [] []
  | cons {f rest p q i d w ds ws} (h : Describes f (p.child i) (q.child i) d w)
      (hr : DescribesAll rest p q (i + 1) ds ws) : DescribesAll (f :: rest) p q i (d :: ds) (w :: ws)
end

/-- A descriptor describes all that a trace can give; if it is a value, the trace gives one without a call. -/
structure Foretells (f : Formula) (p q : Place) (d : Descriptor) (t : Traced Outcome) : Prop where
  describes : ∀ o, t.result = .ok o → f.Describes p q d o.value
  quiet : ∀ v, d = .value v → ∃ o, t = ⟨[], .ok o⟩ ∧ o.calls = 0

/-- The same for formulas at children of places, from a number on. -/
structure ForetellsAll (fs : List Formula) (p q : Place) (i : Nat) (ds : List Descriptor)
    (t : Traced (List Outcome)) : Prop where
  describes : ∀ outs, t.result = .ok outs → DescribesAll fs p q i ds (outs.map Outcome.value)
  quiet : ∀ vs : List Value, ds = vs.map .value → ∃ outs, t = ⟨[], .ok outs⟩ ∧ ∀ o ∈ outs, o.calls = 0

variable {f property : Formula} {elements : List Formula} {p q : Place} {v w : Value}

/-! ## Twins and descriptions -/

theorem Twin.eq_of_kind (h : f.Twin p q v w) (hf : f.kind ≠ .array) : v = w := by
  cases h with
  | taken => rfl
  | made => exact absurd rfl hf

theorem Twin.eq_of_items (h : f.Twin p q v w) (hv : v.items? = none) : v = w := by
  cases h with
  | taken => rfl
  | made => cases hv

/-- A value that was foretold is the twin of the one that comes. -/
theorem Foretells.twin {d : Descriptor} {t : Traced Outcome} {o : Outcome} (h : f.Foretells p q d t)
    (hd : d = .value v) (ho : t.result = .ok o) : f.Twin p q v o.value := by
  subst hd
  obtain ⟨hw⟩ := h.describes o ho
  exact hw

theorem DescribesAll.length_eq {i : Nat} {ds : List Descriptor} {ws : List Value}
    (h : DescribesAll elements p q i ds ws) : ds.length = ws.length := by
  induction elements generalizing i ds ws with
  | nil => cases h; rfl
  | cons f rest ih =>
    obtain _ | ⟨-, hr⟩ := h
    rw [List.length_cons, List.length_cons, ih hr]

/-- Each value is as its descriptor says. -/
theorem DescribesAll.get {i j : Nat} {ds : List Descriptor} {ws : List Value} {d : Descriptor}
    (h : DescribesAll elements p q i ds ws) (hd : ds[j]? = some d) :
    ∃ f w, elements[j]? = some f ∧ ws[j]? = some w ∧
      f.Describes (p.child (i + j)) (q.child (i + j)) d w := by
  induction elements generalizing i j ds ws with
  | nil => cases h; simp at hd
  | cons f rest ih =>
    obtain _ | ⟨hf, hr⟩ := h
    cases j with
    | zero =>
      obtain rfl := Option.some.inj hd
      exact ⟨f, _, rfl, rfl, hf⟩
    | succ j =>
      obtain ⟨f', w, hf', hw, hd'⟩ := ih hr hd
      rw [Nat.succ_add_eq_add_succ] at hd'
      exact ⟨f', w, hf', hw, hd'⟩

/-- Where all is described by values, the values are twins. -/
theorem DescribesAll.twins {i : Nat} {vs ws : List Value}
    (h : DescribesAll elements p q i (vs.map .value) ws) : Twins elements p q i vs ws := by
  induction elements generalizing i vs ws with
  | nil =>
    cases vs with
    | nil => cases h; exact .nil
    | cons v vs => cases h
  | cons f rest ih =>
    cases vs with
    | nil => cases h
    | cons v vs =>
      obtain _ | ⟨hf, hr⟩ := h
      obtain ⟨hv⟩ := hf
      exact .cons hv (ih hr)

end Formula

theorem Outcome.node_calls_of_forall {v : Value} {parts : List Outcome} (h : ∀ o ∈ parts, o.calls = 0) :
    (Outcome.node v parts).calls = 0 := by
  induction parts with
  | nil => rfl
  | cons o rest ih =>
    have ho : o.calls = 0 := h o List.mem_cons_self
    have hr : (Outcome.node v rest).calls = 0 := ih fun o' ho' => h o' (List.mem_cons_of_mem _ ho')
    change o.calls + (Outcome.node v rest).calls = 0
    rw [ho, hr]

/-! ## What the parts of resolving give -/

theorem Resolution.result_bind {α β : Type} (r : Resolution α) (k : α → Resolution β) :
    (r >>= k).result = (k r.result).result := rfl

namespace Descriptor

theorem mapM_value?_eq_some {ds : List Descriptor} {vs : List Value} (h : ds.mapM value? = some vs) :
    ds = vs.map .value := by
  induction ds generalizing vs with
  | nil => cases h; rfl
  | cons d ds ih =>
    simp only [List.mapM_cons, Option.bind_eq_bind, Option.bind_eq_some_iff] at h
    obtain ⟨v, hd, ws, hs, h⟩ := h
    obtain rfl := Option.some.inj h
    cases d with
    | value => cases hd; rw [List.map_cons, ← ih hs]
    | _ => cases hd

theorem mapM_value?_map (vs : List Value) : (vs.map Descriptor.value).mapM value? = some vs := by
  induction vs with
  | nil => rfl
  | cons v vs ih => simp [List.mapM_cons, value?, ih]

/-- An array of values is a value. -/
theorem ofItems_map (id : Place) (vs : List Value) : ofItems id (vs.map .value) = .value (.array id vs) := by
  rw [ofItems, mapM_value?_map]

theorem ofItems_cases (id : Place) (items : List Descriptor) :
    (∃ vs, items = vs.map .value ∧ ofItems id items = .value (.array id vs)) ∨
      ofItems id items = .array items := by
  unfold ofItems
  cases h : items.mapM value? with
  | some vs => exact .inl ⟨vs, mapM_value?_eq_some h, rfl⟩
  | none => exact .inr rfl

end Descriptor

namespace Static

open Formula

variable {s : Setting} {scope : Scope}

/-- An array stays unknown if one of its items does, and is made of its items otherwise. -/
theorem arrayOf_result (p : Place) (done : List Descriptor) (rs : List (Resolution Descriptor)) :
    (arrayOf p done rs).result = if rs.any fun r => r.result.isUnknown then .unknown
      else .ofItems p (done.reverse ++ rs.map Resolution.result) := by
  induction rs generalizing done with
  | nil => rw [List.map_nil, List.append_nil]; rfl
  | cons r rest ih =>
    have hr : (arrayOf p done (r :: rest)).result =
        (if r.result.isUnknown then pure .unknown else arrayOf p (r.result :: done) rest).result := rfl
    rw [hr, List.any_cons]
    by_cases hu : r.result.isUnknown
    · rw [if_pos hu, hu, Bool.true_or, if_pos rfl]
      rfl
    · rw [if_neg hu, ih, Bool.eq_false_iff.2 hu, Bool.false_or, List.reverse_cons, List.append_assoc]
      rfl

theorem result_arrayOf (p : Place) (done : List Descriptor) (rs : List (Resolution Descriptor)) :
    (arrayOf p done rs).result = .unknown ∨
      (arrayOf p done rs).result = .ofItems p (done.reverse ++ rs.map Resolution.result) := by
  rw [arrayOf_result]
  split
  · exact .inl rfl
  · exact .inr rfl

theorem result_allOf (rs : List (Resolution Descriptor)) : (allOf rs).result = rs.map Resolution.result := by
  induction rs with
  | nil => rfl
  | cons r rest ih => exact congrArg (r.result :: ·) ih

theorem nameOf_cases (h : scope.Fits s) (n : String) (p : Place) :
    (nameOf scope n p).result = .unknown ∨
      ∃ v, (nameOf scope n p).result = .value v ∧ s.context.get? n = some v := by
  unfold nameOf
  rcases h with h | ⟨h, -⟩
  · rw [h]
    exact .inl rfl
  · simp only [h]
    cases s.context.get? n with
    | none => exact .inl rfl
    | some v => exact .inr ⟨v, rfl, rfl⟩

theorem objectOf_cases (object : Formula) (r : Resolution Descriptor) :
    (objectOf object r).result = .unknown ∨ (objectOf object r).result = r.result ∧ object.kind ≠ .array := by
  cases object with
  | member => exact .inr ⟨rfl, nofun⟩
  | name => exact .inr ⟨rfl, nofun⟩
  | _ => exact .inl rfl

theorem readOf_cases (scope : Scope) (d : Descriptor) (k : Key) (p : Place) :
    (readOf scope d k p).result = .unknown ∨ ∃ v m, d = .value v ∧ v.isUndefined = false ∧
      readMember scope.policy v k = .ok m ∧ (readOf scope d k p).result = .value m := by
  cases d with
  | value v =>
    unfold readOf
    by_cases hu : v.isUndefined
    · simp only [if_pos hu]
      exact .inl rfl
    · simp only [if_neg hu]
      cases hm : readMember scope.policy v k with
      | ok m => exact .inr ⟨v, m, rfl, Bool.eq_false_iff.2 hu, hm, rfl⟩
      | error f => exact .inl rfl
  | _ => exact .inl rfl

/-- A member resolves only if its step and its object do and the policy lets it be read. -/
theorem memberOf_cases (h : scope.Fits s) (step : Resolution Segment) (object : Resolution Descriptor)
    (p : Place) : (memberOf scope step object p).result = .unknown ∨
      ∃ k v m, step.result.key? = some k ∧ object.result = .value v ∧ v.isUndefined = false ∧
        readMember s.policy v k = .ok m ∧ (memberOf scope step object p).result = .value m := by
  rcases h with h | ⟨h, hp⟩
  · unfold memberOf
    rw [h]
    exact .inl rfl
  · obtain ⟨step, _, _⟩ := step
    unfold memberOf
    rw [h, ← hp]
    cases step with
    | unknown => exact .inl rfl
    | boolean => exact .inl rfl
    | name n =>
      rcases readOf_cases scope object.result (.name n) p with hu | ⟨v, m, hv⟩
      · exact .inl hu
      · exact .inr ⟨.name n, v, m, rfl, hv⟩
    | number x =>
      rcases readOf_cases scope object.result (.number x) p with hu | ⟨v, m, hv⟩
      · exact .inl hu
      · exact .inr ⟨.number x, v, m, rfl, hv⟩

/-- The step of a computed key that resolves to a value. -/
theorem stepOf_of_value {property : Formula} {r : Resolution Descriptor} {v : Value} (h : r.result = .value v) :
    (stepOf true property r).result = Segment.ofValue v := by
  obtain ⟨d, _, _⟩ := r
  obtain rfl : d = .value v := h
  rfl

theorem exists_value_of_stepOf {property : Formula} {r : Resolution Descriptor}
    (h : (stepOf true property r).result.isUnknown = false) : ∃ v, r.result = .value v := by
  obtain ⟨d, _, _⟩ := r
  cases d with
  | value v => exact ⟨v, rfl⟩
  | _ => cases h

/-- A known step is the key that plain evaluation finds, without a call. -/
theorem keyInTurn_of_stepOf {computed : Bool} {property : Formula} {r : Resolution Descriptor} {p q : Place}
    (h : computed = true → property.Foretells p q r.result (property.inTurn s q))
    (hu : (stepOf computed property r).result.isUnknown = false) :
    ∃ o, keyInTurn s computed property q = ⟨[], .ok o⟩ ∧ o.calls = 0 ∧
      o.value.key? = (stepOf computed property r).result.key? := by
  cases computed with
  | true =>
    obtain ⟨v, hr⟩ := exists_value_of_stepOf hu
    rw [stepOf_of_value hr] at hu ⊢
    obtain ⟨o, ht, hc⟩ := (h rfl).quiet v hr
    have hv := (h rfl).twin hr (by rw [ht])
    have hi : v.items? = none := by cases v <;> first | rfl | cases hu
    obtain rfl := hv.eq_of_items hi
    refine ⟨o, ht, hc, ?_⟩
    cases o.value <;> rfl
  | false =>
    unfold stepOf keyInTurn at *
    cases hn : property.name? with
    | some n => exact ⟨.leaf (.text n), rfl, rfl, rfl⟩
    | none => simp [hn] at hu; cases hu

end Static

namespace Formula

open Static

variable {s : Setting} {scope : Scope}

theorem Foretells.unknown (f : Formula) (p q : Place) (t : Traced Outcome) : f.Foretells p q .unknown t :=
  ⟨fun _ _ => .unknown, nofun⟩

theorem Foretells.value {f : Formula} {p q : Place} {o : Outcome} (hf : f.kind ≠ .array) (hc : o.calls = 0) :
    f.Foretells p q (.value o.value) ⟨[], .ok o⟩ := by
  refine ⟨?_, fun _ _ => ⟨o, rfl, hc⟩⟩
  rintro _ ⟨⟩
  exact .value (.taken hf)

/-- An array is foretold by its items. -/
theorem ForetellsAll.ofItems {elements : List Formula} {p q : Place} {ds : List Descriptor}
    {t : Traced (List Outcome)} (h : ForetellsAll elements p q 0 ds t) :
    Foretells (.array elements) p q (.ofItems p ds) (do
      let outs ← t
      pure (.node (.array q (outs.map Outcome.value)) outs)) := by
  have ht : ∀ o : Outcome,
      (do
        let outs ← t
        pure (.node (.array q (outs.map Outcome.value)) outs) : Traced Outcome).result = .ok o →
      ∃ outs, t.result = .ok outs ∧ o.value = .array q (outs.map Outcome.value) := by
    intro o ho
    obtain ⟨outs, hr, ho⟩ := Traced.ok_of_bind ho
    obtain rfl := Except.ok.inj ho
    exact ⟨outs, hr, rfl⟩
  rcases Descriptor.ofItems_cases p ds with ⟨vs, rfl, hv⟩ | ha
  · rw [hv]
    constructor
    · intro o ho
      obtain ⟨outs, hr, hw⟩ := ht o ho
      rw [hw]
      exact .value (.made (h.describes outs hr).twins)
    · intro v _
      obtain ⟨outs, rfl, hc⟩ := h.quiet vs rfl
      exact ⟨_, rfl, Outcome.node_calls_of_forall hc⟩
  · rw [ha]
    refine ⟨fun o ho => ?_, nofun⟩
    obtain ⟨outs, hr, hw⟩ := ht o ho
    rw [hw]
    exact .array (h.describes outs hr)

/-- A member is foretold by its step and its object. -/
theorem foretells_memberOf {object property : Formula} {computed : Bool} {p q : Place}
    (h : scope.Fits s) {ro rk : Resolution Descriptor}
    (ho : object.Foretells (p.child 0) (q.child 0) ro.result (object.inTurn s (q.child 0)))
    (hk : property.Foretells (p.child 1) (q.child 1) rk.result (property.inTurn s (q.child 1))) :
    Foretells (.member object property computed) p q
      (memberOf scope (stepOf computed property rk) (objectOf object ro) p).result
      (inTurn s (.member object property computed) q) := by
  rcases memberOf_cases h (stepOf computed property rk) (objectOf object ro) p with
    hu | ⟨k, v, m, hs, hv, hd, hm, hr⟩
  · rw [hu]
    exact .unknown ..
  · rcases objectOf_cases object ro with hu | ⟨hr', ha⟩
    · rw [hu] at hv
      cases hv
    · obtain ⟨key, htk, hck, hkey⟩ := keyInTurn_of_stepOf (fun _ => hk) (Segment.isUnknown_of_key? hs)
      rw [hr'] at hv
      obtain ⟨o, hto, hco⟩ := ho.quiet v hv
      have hw := ho.twin hv (by rw [hto])
      obtain rfl := hw.eq_of_kind ha
      have hread : s.read o.value key.value = .ok m := by
        rw [Setting.read, hd, hkey, hs]
        exact hm
      have ht : inTurn s (.member object property computed) q = ⟨[], .ok (.node m [o, key])⟩ := by
        rw [inTurn_member, hto]
        change (keyInTurn s computed property (q.child 1) >>= _).told [] = _
        rw [htk]
        change (⟨[], (s.read o.value key.value).map fun v => .node v [o, key]⟩ : Traced Outcome) = _
        rw [hread]
        rfl
      rw [hr, ht]
      refine .value (o := .node m [o, key]) (by nofun) (Outcome.node_calls_of_forall ?_)
      simp only [List.mem_cons, List.not_mem_nil, or_false, forall_eq_or_imp, forall_eq]
      exact ⟨hco, hck⟩

theorem ForetellsAll.cons {f : Formula} {rest : List Formula} {p q : Place} {i : Nat} {d : Descriptor}
    {ds : List Descriptor} {t : Traced Outcome} {u : Traced (List Outcome)}
    (h : f.Foretells (p.child i) (q.child i) d t) (hr : ForetellsAll rest p q (i + 1) ds u) :
    ForetellsAll (f :: rest) p q i (d :: ds) (t.single.beside u) := by
  constructor
  · intro outs ho
    obtain ⟨_, os, hs, hu, rfl⟩ := Traced.ok_of_beside ho
    obtain ⟨o, ht, rfl⟩ := Traced.ok_of_single hs
    exact .cons (h.describes o ht) (hr.describes os hu)
  · intro vs hv
    cases vs with
    | nil => cases hv
    | cons v vs =>
      obtain ⟨hv, hvs⟩ := List.cons.inj hv
      obtain ⟨o, rfl, hc⟩ := h.quiet v hv
      obtain ⟨os, rfl, hcs⟩ := hr.quiet vs hvs
      refine ⟨o :: os, rfl, fun o' ho' => ?_⟩
      rcases List.mem_cons.1 ho' with rfl | ho'
      · exact hc
      · exact hcs o' ho'

/-- All but arrays and calls resolve to values or stay unknown. -/
theorem unknown_or_value (h : scope.Fits s) {f : Formula} (ha : f.kind ≠ .array) (hc : f.kind ≠ .call) (p : Place) :
    (f.resolve scope p).result = .unknown ∨ ∃ v, (f.resolve scope p).result = .value v := by
  cases f with
  | array => exact absurd rfl ha
  | call => exact absurd rfl hc
  | name n =>
    rcases nameOf_cases h n p with hu | ⟨v, hv, -⟩
    · exact .inl hu
    · exact .inr ⟨v, hv⟩
  | member object property computed =>
    rcases memberOf_cases h (stepOf computed property (resolve scope property (p.child 1)))
      (objectOf object (resolve scope object (p.child 0))) p with hu | ⟨_, _, m, -, -, -, -, hm⟩
    · exact .inl hu
    · exact .inr ⟨m, hm⟩
  | literal v => exact .inr ⟨v.toValue, rfl⟩
  | _ => exact .inl rfl

/-- An array stays unknown or is made of what its elements resolve to; of values only, it is a value. -/
theorem array_cases (elements : List Formula) (p : Place) :
    ((array elements).resolve scope p).result = .unknown ∨
      (∃ vs : List Value, (resolveEach scope elements p 0).map Resolution.result = vs.map .value ∧
        ((array elements).resolve scope p).result = .value (.array p vs)) ∨
      ((array elements).resolve scope p).result =
        .array ((resolveEach scope elements p 0).map Resolution.result) := by
  change (arrayOf p [] (resolveEach scope elements p 0)).result = .unknown ∨
    (∃ vs : List Value, _ ∧ (arrayOf p [] (resolveEach scope elements p 0)).result = .value (.array p vs)) ∨
      (arrayOf p [] (resolveEach scope elements p 0)).result = .array _
  rcases result_arrayOf p [] (resolveEach scope elements p 0) with hu | hi
  · exact .inl hu
  · rw [hi]
    exact .inr (Descriptor.ofItems_cases p _)

/-- Only calls resolve to calls. -/
theorem kind_of_call {f : Formula} {p : Place} {name : String} {path : List Segment} {args : List Descriptor}
    (h : scope.Fits s) (hr : (f.resolve scope p).result = .call name path args) : f.kind = .call := by
  by_cases ha : f.kind = .array
  · cases f with
    | array elements =>
      rcases array_cases elements p with hu | ⟨_, -, hv⟩ | hi
      · cases hu.symm.trans hr
      · cases hv.symm.trans hr
      · cases hi.symm.trans hr
    | _ => cases ha
  · by_cases hc : f.kind = .call
    · exact hc
    · rcases unknown_or_value h ha hc p with hu | ⟨v, hv⟩
      · cases hu.symm.trans hr
      · cases hv.symm.trans hr

mutual
/-- **Resolving foretells plain evaluation.** -/
theorem resolve_foretells (h : scope.Fits s) : (f : Formula) → (p q : Place) →
    f.Foretells p q (f.resolve scope p).result (f.inTurn s q)
  | .literal v _, _, _ => .value (o := .leaf v.toValue) (by nofun) rfl
  | .name n, p, q => by
    rcases nameOf_cases h n p with hu | ⟨v, hv, hn⟩
    · rw [resolve, hu]
      exact .unknown ..
    · rw [resolve, hv, inTurn, hn]
      exact .value (o := .leaf v) (by nofun) rfl
  | .member object property computed, p, q =>
    foretells_memberOf h (resolve_foretells h object _ _) (resolve_foretells h property _ _)
  | .array elements, p, q => by
    have hs := resolveEach_foretells h elements p q 0
    change Foretells _ _ _ (arrayOf p [] (resolveEach scope elements p 0)).result _
    rcases result_arrayOf p [] (resolveEach scope elements p 0) with hu | hr
    · rw [hu]
      exact .unknown ..
    · rw [hr]
      exact hs.ofItems
  | .call callee arguments, p, q => by
    rw [resolve, Resolution.result_bind]
    cases (siteOf (resolvePath scope callee (p.child 0)) (resolveEach scope arguments p 1)).quiet.result with
    | none => exact .unknown ..
    | some c => exact ⟨fun _ _ => .call rfl, nofun⟩
  | .binary .., _, _ | .sequence _, _, _ | .conditional .., _, _ | .logical .., _, _ | .self, _, _
  | .unary .., _, _ => .unknown ..

/-- So does resolving formulas one by one. -/
theorem resolveEach_foretells (h : scope.Fits s) : (fs : List Formula) → (p q : Place) → (i : Nat) →
    ForetellsAll fs p q i ((resolveEach scope fs p i).map Resolution.result) (inTurnEach s fs q i)
  | [], _, _, _ => by
    constructor
    · rintro _ ⟨⟩
      exact .nil
    · exact fun _ _ => ⟨[], rfl, nofun⟩
  | f :: rest, p, q, i => by
    rw [inTurnEach_cons]
    exact .cons (resolve_foretells h f _ _) (resolveEach_foretells h rest p q (i + 1))
end

end Formula

/-- **Resolving is sound for evaluation.** Where a formula resolves to a value, evaluation gives its twin and
calls nothing. Where it resolves to an array, every success is an array of as many values, each as described.
Only calls resolve to calls. -/
theorem resolve_sound {s : Setting} {scope : Scope} (h : scope.Fits s) (f : Formula) (p q : Place) :
    (∀ v, (f.resolve scope p).result = .value v →
      ∃ o, (evaluate s f q).result = .ok o ∧ o.calls = 0 ∧ (evaluate s f q).invocations = [] ∧
        f.Twin p q v o.value) ∧
    (∀ items, (f.resolve scope p).result = .array items →
      ∀ o, (evaluate s f q).result = .ok o → ∃ elements ws,
        f = .array elements ∧ o.value = .array q ws ∧ ws.length = items.length ∧
          ∀ (i : Nat) (d : Descriptor), items[i]? = some d → ∃ g w, elements[i]? = some g ∧
            ws[i]? = some w ∧ g.Describes (p.child i) (q.child i) d w) ∧
    ∀ name path args, (f.resolve scope p).result = .call name path args → f.kind = .call := by
  have hf := Formula.resolve_foretells h f p q
  refine ⟨?_, ?_, ?_⟩
  · intro v hv
    obtain ⟨o, ht, hc⟩ := hf.quiet v hv
    obtain ⟨hr, hi⟩ := evaluate_of_inTurn s f q ht
    have hd := hf.describes o (by rw [ht])
    rw [hv] at hd
    obtain ⟨hw⟩ := hd
    exact ⟨o, hr, hc, hi, hw⟩
  · intro items hv o ho
    have hd := hf.describes o ((evaluate_agrees s f q).ok_iff.2 ho)
    generalize o.value = w at hd ⊢
    rw [hv] at hd
    obtain _ | ⟨ha⟩ := hd
    refine ⟨_, _, rfl, rfl, ha.length_eq.symm, fun i d hd => ?_⟩
    obtain ⟨g, w, hg, hw, hgw⟩ := ha.get hd
    rw [Nat.zero_add] at hgw
    exact ⟨g, w, hg, hw, hgw⟩
  · intro name path args hv
    exact Formula.kind_of_call h hv

theorem resolve_sound_label :
    let f : Formula := .array [.member (.name "box") (.name "label") false, .literal (.text "y") none]
    let s := Setting.sample
    s.scope.Fits s ∧ ∃ o, (evaluate s f (.root 4)).result = .ok o ∧ o.calls = 0 ∧
      (evaluate s f (.root 4)).invocations = [] ∧
        f.Twin (.root 3) (.root 4) (.array (.root 3) [.text "x", .text "y"]) o.value := by
  intro f s
  have h := s.fits_scope
  exact ⟨h, (resolve_sound h f (.root 3) (.root 4)).1 _ rfl⟩

end GatedFormula
