/-
  Formulas of names, literals, arrays and members alone.
  - `Formula.IsStatic` singles them out: everything that resolving looks into, apart from calls.
  - Such a formula resolves to the value that it evaluates to, and stays unknown if it fails
    (`IsStatic.exists_value`, `IsStatic.result_cases`).
  - The fault that it fails with is the one of a node, unless nothing but evaluation can find it
    (`IsStatic.blamed_of_error`).
  - `resolve_complete` puts these together, for evaluation under any host.
-/
import GatedFormula.Proofs.Skipping
import GatedFormula.Proofs.Permission

namespace GatedFormula

open Static

variable {s : Setting} {scope : Scope}

/-- A formula of literals, names, arrays of such formulas, and members. What a member is read of is a name or a
member itself; its key is a name of its own or computed by such a formula. -/
inductive Formula.IsStatic : Formula → Prop
  | literal (v : Literal) (raw : Option String) : IsStatic (.literal v raw)
  | name (n : String) : IsStatic (.name n)
  | array {elements : List Formula} (h : ∀ f ∈ elements, IsStatic f) : IsStatic (.array elements)
  | dotted {object : Formula} (n : String) (hk : object.kind = .name ∨ object.kind = .member)
      (h : IsStatic object) : IsStatic (.member object (.name n) false)
  | computed {object key : Formula} (hk : object.kind = .name ∨ object.kind = .member) (h : IsStatic object)
      (hkey : IsStatic key) : IsStatic (.member object key true)

/-- A fault that can be seen without evaluating: a name that is not there, a read that is refused, a boolean as a
key. -/
inductive Fault.Foreseen : Fault → Prop
  | notFound (n : String) : Foreseen (.notFound n)
  | denied (container : String) (containerType : TypeName) (key : String) (keyType : TypeName) :
      Foreseen (.denied container containerType key keyType)
  | boolean : Foreseen (.badKey .boolean)

/-! ## Steps and reads -/

theorem Segment.key?_ofValue (v : Value) : (ofValue v).key? = v.key? := by
  cases v <;> rfl

theorem Segment.ofValue_eq_boolean {v : Value} (h : v.typeName = .boolean) : ∃ b, ofValue v = .boolean b := by
  cases v with
  | boolean b => exact ⟨b, rfl⟩
  | _ => cases h

namespace Static

theorem objectOf_of_kind {object : Formula} (h : object.kind = .name ∨ object.kind = .member)
    (r : Resolution Descriptor) : (objectOf object r).result = r.result := by
  cases object with
  | name | member => rfl
  | _ => rcases h with h | h <;> cases h

end Static

namespace Formula

theorem Twin.ofValue_eq {f : Formula} {p q : Place} {v w : Value} (h : f.Twin p q v w) :
    Segment.ofValue v = Segment.ofValue w := by
  cases h with
  | taken => rfl
  | made => rfl

mutual
/-- At one place twins are the same. -/
theorem Twin.eq {f : Formula} {p : Place} {v w : Value} : f.Twin p p v w → v = w
  | .taken _ => rfl
  | .made h => by rw [h.eq]

theorem Twins.eq {fs : List Formula} {p : Place} {i : Nat} {vs ws : List Value} :
    Twins fs p p i vs ws → vs = ws
  | .nil => rfl
  | .cons h hr => by rw [h.eq, hr.eq]
end

/-- A formula that resolves to a value resolves to the twin of its own value. -/
theorem twin_of_resolve {f : Formula} {p q : Place} {v : Value} {o : Outcome}
    (hr : (f.resolve s.scope p).result = .value v) (ho : (f.inTurn s q).result = .ok o) :
    f.Twin p q v o.value :=
  (resolve_foretells s.fits_scope f p q).twin hr ho

/-- The step of a member is that of its key, if a computed key resolves whenever it has a value. -/
theorem stepOf_of_keyInTurn {property : Formula} {computed : Bool} {p q : Place} {key : Outcome}
    (h : computed = true → ∀ o, (property.inTurn s q).result = .ok o →
      ∃ v, (property.resolve s.scope p).result = .value v)
    (hk : (keyInTurn s computed property q).result = .ok key) :
    (stepOf computed property (property.resolve s.scope p)).result = Segment.ofValue key.value := by
  cases computed with
  | true =>
    obtain ⟨v, hv⟩ := h rfl key hk
    rw [stepOf_of_value hv, (twin_of_resolve hv hk).ofValue_eq]
  | false =>
    unfold keyInTurn at hk
    unfold stepOf
    cases hn : property.name? with
    | none => simp only [hn] at hk; cases hk
    | some n => simp only [hn] at hk; cases hk; rfl

/-! ## Members -/

/-- A member attempts the read that its evaluation comes to. -/
theorem attempt?_of_inTurn {object property : Formula} {computed : Bool} {p q : Place} {a key : Outcome} {k : Key}
    (hk : object.kind = .name ∨ object.kind = .member)
    (ho : ∃ v, (object.resolve s.scope (p.child 0)).result = .value v)
    (hp : computed = true → ∀ o, (property.inTurn s (q.child 1)).result = .ok o →
      ∃ v, (property.resolve s.scope (p.child 1)).result = .value v)
    (ha : (object.inTurn s (q.child 0)).result = .ok a)
    (hkey : (keyInTurn s computed property (q.child 1)).result = .ok key) (hd : a.value.isUndefined = false)
    (hkk : key.value.key? = some k) :
    (member object property computed).attempt? s.scope p = some (a.value, k) := by
  obtain ⟨v, hv⟩ := ho
  have hw := twin_of_resolve hv ha
  have harray : object.kind ≠ .array := by
    rcases hk with hk | hk <;> rw [hk] <;> nofun
  obtain rfl := hw.eq_of_kind harray
  refine target?_eq_some_iff.2 ⟨?_, ?_, hd⟩
  · rw [stepOf_of_keyInTurn hp hkey, Segment.key?_ofValue, hkk]
  · rw [objectOf_of_kind hk, hv]

theorem isUndefined_of_read {object key m : Value} (h : s.read object key = .ok m) : object.isUndefined = false := by
  by_contra hu
  rw [Setting.read, if_pos (Bool.not_eq_false _ ▸ hu)] at h
  cases h

/-! ## Formulas one by one -/

theorem values_of_inTurnEach {fs : List Formula} {p q : Place} {i : Nat} {outs : List Outcome}
    (h : ∀ f ∈ fs, ∀ {p q : Place} {o : Outcome}, (f.inTurn s q).result = .ok o →
      ∃ v, (f.resolve s.scope p).result = .value v)
    (ho : (inTurnEach s fs q i).result = .ok outs) :
    ∃ vs : List Value, (resolveEach s.scope fs p i).map Resolution.result = vs.map .value := by
  induction fs generalizing i outs with
  | nil => exact ⟨[], rfl⟩
  | cons f rest ih =>
    rw [inTurnEach] at ho
    obtain ⟨o, hf, ho⟩ := Traced.ok_of_bind ho
    obtain ⟨os, hr, -⟩ := Traced.ok_of_bind ho
    obtain ⟨v, hv⟩ := h f List.mem_cons_self (p := p.child i) hf
    obtain ⟨vs, hvs⟩ := ih (fun g hg => h g (List.mem_cons_of_mem _ hg)) hr
    exact ⟨v :: vs, by rw [resolveEach, List.map_cons, hv, hvs, List.map_cons]⟩

/-- If every formula resolves to a value or stays unknown, all resolve to values or one stays unknown. -/
theorem resolveEach_cases {fs : List Formula} (p : Place) (i : Nat)
    (h : ∀ f ∈ fs, ∀ p, (f.resolve scope p).result = .unknown ∨ ∃ v, (f.resolve scope p).result = .value v) :
    (resolveEach scope fs p i).any (fun r => r.result.isUnknown) = true ∨
      ∃ vs : List Value, (resolveEach scope fs p i).map Resolution.result = vs.map .value := by
  induction fs generalizing i with
  | nil => exact .inr ⟨[], rfl⟩
  | cons f rest ih =>
    rw [resolveEach, List.any_cons, List.map_cons]
    rcases h f List.mem_cons_self (p.child i) with hu | ⟨v, hv⟩
    · rw [hu]
      exact .inl rfl
    · rcases ih (i + 1) fun g hg => h g (List.mem_cons_of_mem _ hg) with hu | ⟨vs, hvs⟩
      · rw [hu, Bool.or_true]
        exact .inl rfl
      · rw [hv, hvs]
        exact .inr ⟨v :: vs, rfl⟩

theorem arrayOf_of_values {p : Place} {rs : List (Resolution Descriptor)} {vs : List Value}
    (h : rs.map Resolution.result = vs.map .value) : (arrayOf p [] rs).result = .value (.array p vs) := by
  have hu : ¬ (rs.any fun r => r.result.isUnknown) = true := by
    rw [List.any_eq_true]
    rintro ⟨r, hr, hu⟩
    have hm : r.result ∈ vs.map Descriptor.value := h ▸ List.mem_map_of_mem hr
    obtain ⟨v, -, hv⟩ := List.mem_map.1 hm
    rw [← hv] at hu
    cases hu
  rw [arrayOf_result, if_neg hu, h, List.reverse_nil, List.nil_append, Descriptor.ofItems_map]

/-- Some formula fails with the fault that all fail with. -/
theorem error_of_inTurnEach {fs : List Formula} {q : Place} {i : Nat} {g : Fault}
    (h : (inTurnEach s fs q i).result = .error g) :
    ∃ (j : Nat) (f : Formula), fs[j]? = some f ∧ (f.inTurn s (q.child (i + j))).result = .error g := by
  induction fs generalizing i with
  | nil => cases h
  | cons f rest ih =>
    rw [inTurnEach] at h
    cases hf : (f.inTurn s (q.child i)).result with
    | error g' =>
      rw [Traced.bind_of_error hf] at h
      obtain rfl := Except.error.inj h
      exact ⟨0, f, rfl, hf⟩
    | ok o =>
      rw [Traced.bind_of_ok hf] at h
      cases hr : (inTurnEach s rest q (i + 1)).result with
      | error g' =>
        rw [Traced.bind_of_error hr] at h
        obtain rfl := Except.error.inj h
        obtain ⟨j, f', hj, hf'⟩ := ih hr
        rw [Nat.succ_add_eq_add_succ] at hf'
        exact ⟨j + 1, f', hj, hf'⟩
      | ok os =>
        rw [Traced.bind_of_ok hr] at h
        cases h

theorem callCountAll_eq_zero {fs : List Formula} (h : ∀ f ∈ fs, f.callCount = 0) : callCountAll fs = 0 := by
  induction fs with
  | nil => rfl
  | cons f rest ih =>
    have hr := ih fun g hg => h g (List.mem_cons_of_mem _ hg)
    rw [callCountAll, h f List.mem_cons_self, hr]

namespace IsStatic

variable {f : Formula}

/-- Nothing is called. -/
theorem callCount_eq (hf : f.IsStatic) : f.callCount = 0 := by
  induction hf with
  | literal | name => rfl
  | array _ ih => exact callCountAll_eq_zero ih
  | dotted n _ _ ih => rw [callCount, ih, callCount]
  | computed _ _ _ ih ihk => rw [callCount, ih, ihk]

/-! ## Values -/

/-- A member whose parts resolve whenever they have values does so itself. -/
theorem exists_value_member {object property : Formula} {computed : Bool} {p q : Place} {o : Outcome}
    (hk : object.kind = .name ∨ object.kind = .member)
    (ho : ∀ {p q : Place} {o : Outcome}, (object.inTurn s q).result = .ok o →
      ∃ v, (object.resolve s.scope p).result = .value v)
    (hp : computed = true → ∀ o, (property.inTurn s (q.child 1)).result = .ok o →
      ∃ v, (property.resolve s.scope (p.child 1)).result = .value v)
    (h : (inTurn s (member object property computed) q).result = .ok o) :
    ∃ v, ((member object property computed).resolve s.scope p).result = .value v := by
  obtain ⟨a, key, ha, hkey, hr⟩ := inTurn_member_eq_ok h
  obtain ⟨k, hkk, hm⟩ := Setting.read_eq_ok hr
  have ht := attempt?_of_inTurn hk (ho ha) hp ha hkey (isUndefined_of_read hr) hkk
  have hc : s.scope.context = some s.context := rfl
  exact ⟨o.value, memberOf_of_target? hc ht hm p⟩

/-- **What has a value resolves to a value.** -/
theorem exists_value (hf : f.IsStatic) : ∀ {p q : Place} {o : Outcome}, (f.inTurn s q).result = .ok o →
    ∃ v, (f.resolve s.scope p).result = .value v := by
  induction hf with
  | literal v raw => exact fun _ => ⟨v.toValue, rfl⟩
  | name n =>
    intro p q o h
    cases succeeds h with
    | @name _ _ v hn =>
      refine ⟨v, ?_⟩
      simp only [resolve, nameOf, Setting.scope, hn]
      rfl
  | array _ ih =>
    intro p q o h
    cases succeeds h with
    | array he =>
      obtain ⟨vs, hvs⟩ := values_of_inTurnEach ih he
      exact ⟨.array p vs, arrayOf_of_values hvs⟩
  | dotted n hk _ ih =>
    intro p q o h
    exact exists_value_member hk ih (absurd · Bool.false_ne_true) h
  | computed hk _ _ ih ihkey =>
    intro p q o h
    exact exists_value_member hk ih (fun _ _ hkey => ihkey hkey) h

/-- **Otherwise it stays unknown.** -/
theorem result_cases (s : Setting) (hf : f.IsStatic) : ∀ p, (f.resolve s.scope p).result = .unknown ∨
    ∃ v, (f.resolve s.scope p).result = .value v := by
  induction hf with
  | @array elements _ ih =>
    intro p
    change (arrayOf p [] (resolveEach s.scope elements p 0)).result = .unknown ∨
      ∃ v, (arrayOf p [] (resolveEach s.scope elements p 0)).result = .value v
    rcases resolveEach_cases p 0 ih with hu | ⟨vs, hvs⟩
    · rw [arrayOf_result, if_pos hu]
      exact .inl rfl
    · exact .inr ⟨_, arrayOf_of_values hvs⟩
  | literal | name | dotted | computed => exact unknown_or_value s.fits_scope (by simp [kind]) (by simp [kind])

theorem unknown_of_error (hf : f.IsStatic) {p q : Place} {g : Fault} (h : (f.inTurn s q).result = .error g) :
    (f.resolve s.scope p).result = .unknown := by
  rcases hf.result_cases s p with hu | ⟨v, hv⟩
  · exact hu
  · obtain ⟨o, ho, -⟩ := (resolve_foretells s.fits_scope f p q).quiet v hv
    rw [ho] at h
    cases h

/-! ## Faults -/

/-- The fault of a read that a member comes to is the fault of its node, unless only evaluation can find it. -/
theorem blame?_of_read {object property : Formula} {computed : Bool} {p q : Place} {a key : Outcome} {g : Fault}
    (hk : object.kind = .name ∨ object.kind = .member)
    (ho : ∃ v, (object.resolve s.scope (p.child 0)).result = .value v)
    (hp : computed = true → ∀ o, (property.inTurn s (q.child 1)).result = .ok o →
      ∃ v, (property.resolve s.scope (p.child 1)).result = .value v)
    (ha : (object.inTurn s (q.child 0)).result = .ok a)
    (hkey : (keyInTurn s computed property (q.child 1)).result = .ok key)
    (hr : s.read a.value key.value = .error g) (hg : g.Foreseen) :
    (member object property computed).blame? s.scope p = some g := by
  unfold Setting.read at hr
  split at hr
  · cases hr
    cases hg
  · rename_i hd
    cases hkk : key.value.key? with
    | none =>
      simp only [hkk] at hr
      obtain rfl := Except.error.inj hr
      have ht : key.value.typeName = .boolean := by
        generalize key.value.typeName = t at hg
        cases hg
        rfl
      obtain ⟨b, hb⟩ := Segment.ofValue_eq_boolean ht
      change memberFault? s.policy (stepOf computed property (resolve s.scope property (p.child 1))).result
        (objectOf object (resolve s.scope object (p.child 0))).result = _
      rw [stepOf_of_keyInTurn hp hkey, hb, ht]
      rfl
    | some k =>
      simp only [hkk] at hr
      have hat := attempt?_of_inTurn hk ho hp ha hkey (Bool.eq_false_iff.2 hd) hkk
      rw [blame?_of_attempt? hat]
      unfold readMember at hr
      split at hr
      · cases hr
      · rename_i hperm
        obtain rfl := Except.error.inj hr
        exact if_neg hperm

/-- A part that is blamed for a fault gets the blame to the whole. -/
theorem exists_blamed_of_part {f g : Formula} {p : Place} {i : Nat} {fault : Fault} (hg : f.parts[i]? = some g)
    (h : ∃ q, g.Blamed s.scope (p.child i) (q, fault)) : ∃ q, f.Blamed s.scope p (q, fault) := by
  obtain ⟨q, hb⟩ := h
  exact ⟨q, hb.trans (mem_walked.2 (.inr ⟨i, g, hg, mem_walked_self g _⟩))⟩

/-- The fault of a member is the fault of its object, of its key, or its own. -/
theorem blamed_of_error_member {object property : Formula} {computed : Bool} {p q : Place} {g : Fault}
    (hk : object.kind = .name ∨ object.kind = .member) (hobject : object.IsStatic)
    (ho : (object.inTurn s (q.child 0)).result = .error g → ∃ r, object.Blamed s.scope (p.child 0) (r, g))
    (hp : computed = true → ∀ o, (property.inTurn s (q.child 1)).result = .ok o →
      ∃ v, (property.resolve s.scope (p.child 1)).result = .value v)
    (hkey : (keyInTurn s computed property (q.child 1)).result = .error g →
      ∃ r, (member object property computed).Blamed s.scope p (r, g))
    (h : (inTurn s (member object property computed) q).result = .error g) (hg : g.Foreseen) :
    ∃ r, (member object property computed).Blamed s.scope p (r, g) := by
  have hpart : (member object property computed).parts[0]? = some object := by
    cases computed <;> rfl
  rw [inTurn_member] at h
  cases ha : (object.inTurn s (q.child 0)).result with
  | error g' =>
    rw [Traced.bind_of_error ha] at h
    obtain rfl := Except.error.inj h
    exact exists_blamed_of_part hpart (ho ha)
  | ok a =>
    rw [Traced.bind_of_ok ha] at h
    cases hkr : (keyInTurn s computed property (q.child 1)).result with
    | error g' =>
      rw [Traced.bind_of_error hkr] at h
      obtain rfl := Except.error.inj h
      exact hkey hkr
    | ok key =>
      rw [Traced.bind_of_ok hkr] at h
      change (s.read a.value key.value).map (fun v => Outcome.node v [a, key]) = .error g at h
      cases hr : s.read a.value key.value with
      | ok m => rw [hr] at h; cases h
      | error g' =>
        rw [hr] at h
        obtain rfl := Except.error.inj h
        have hb := blame?_of_read hk (hobject.exists_value ha) hp ha hkr hr hg
        exact ⟨p, _, mem_walked_self _ p, hb⟩

/-- **The fault that it fails with is the one of a node**, unless only evaluation can find it. -/
theorem blamed_of_error (hf : f.IsStatic) : ∀ {p q : Place} {g : Fault}, (f.inTurn s q).result = .error g →
    g.Foreseen → ∃ r, f.Blamed s.scope p (r, g) := by
  induction hf with
  | literal v raw =>
    intro p q g h
    cases h
  | name n =>
    intro p q g h _
    rw [inTurn] at h
    have hc : s.context.contains n = (s.context.get? n).isSome := rfl
    cases hn : s.context.get? n with
    | some v => rw [hn] at h; cases h
    | none =>
      rw [hn] at h hc
      obtain rfl := Except.error.inj h
      refine ⟨p, .name n, mem_walked_self _ p, ?_⟩
      simp [blame?, Setting.scope, hc]
  | @array elements _ ih =>
    intro p q g h hg
    rw [inTurn] at h
    cases he : (inTurnEach s elements q 0).result with
    | ok outs => rw [Traced.bind_of_ok he] at h; cases h
    | error g' =>
      rw [Traced.bind_of_error he] at h
      obtain rfl := Except.error.inj h
      obtain ⟨j, f', hj, hf'⟩ := error_of_inTurnEach he
      rw [Nat.zero_add] at hf'
      have hpart : (Formula.array elements).parts[j]? = some f' := hj
      exact exists_blamed_of_part hpart (ih f' (List.mem_of_getElem? hj) hf' hg)
  | dotted n hk hobject ih =>
    intro p q g h hg
    exact blamed_of_error_member hk hobject (fun ho => ih ho hg) (absurd · Bool.false_ne_true)
      (fun he => by cases he) h hg
  | @computed object key hk hobject hkey ih ihkey =>
    intro p q g h hg
    have hpart : (member object key true).parts[1]? = some key := rfl
    exact blamed_of_error_member hk hobject (fun ho => ih ho hg) (fun _ _ ho => hkey.exists_value ho)
      (fun hk => exists_blamed_of_part hpart (ihkey hk hg)) h hg

end IsStatic

end Formula

open Formula

theorem mem_faults_of_blamed {f : Formula} {p : Place} {r : Place × Fault} (h : f.Blamed scope p r) :
    r.2 ∈ (analyze scope f p).faults := by
  obtain ⟨g, hg, hb⟩ := h
  exact (faults_perm scope f p).mem_iff.2 (List.mem_filterMap.2 ⟨_, hg, hb⟩)

/-- **Resolving is complete on formulas of names, literals, arrays and members.** Such a formula resolves to a value
exactly if it evaluates to that value; at another place the arrays that it makes have other identities. If it
fails, it stays unknown, and an analysis reports the very fault, unless only evaluation can find it. -/
theorem resolve_complete {s : Setting} {f : Formula} (hf : f.IsStatic) (p q : Place) :
    (∀ v, (f.resolve s.scope q).result = .value v ↔ ∃ o, (evaluate s f q).result = .ok o ∧ o.value = v) ∧
    (∀ o, (evaluate s f q).result = .ok o →
      ∃ v, (f.resolve s.scope p).result = .value v ∧ f.Twin p q v o.value) ∧
    ∀ g, (evaluate s f q).result = .error g → (f.resolve s.scope p).result = .unknown ∧
      (g.Foreseen → g ∈ (analyze s.scope f p).faults) := by
  obtain ⟨he, -, -⟩ := evaluate_of_no_calls s f q hf.callCount_eq
  rw [he]
  refine ⟨fun v => ⟨fun hv => ?_, ?_⟩, fun o ho => ?_, fun g hg => ⟨hf.unknown_of_error hg, fun h => ?_⟩⟩
  · obtain ⟨o, ht, -⟩ := (resolve_foretells s.fits_scope f q q).quiet v hv
    have ho : (f.inTurn s q).result = .ok o := by rw [ht]
    exact ⟨o, ho, (twin_of_resolve hv ho).eq.symm⟩
  · rintro ⟨o, ho, rfl⟩
    obtain ⟨v, hv⟩ := hf.exists_value (p := q) ho
    rw [hv, (twin_of_resolve hv ho).eq]
  · obtain ⟨v, hv⟩ := hf.exists_value (p := p) ho
    exact ⟨v, hv, twin_of_resolve hv ho⟩
  · obtain ⟨r, hr⟩ := hf.blamed_of_error hg h
    exact mem_faults_of_blamed hr

/-- `[box.label, lid]` fails for want of a lid, which its analysis sees, and `[box.label, "y"]` has a value. -/
theorem resolve_complete_lid :
    let f : Formula := .array [.member (.name "box") (.name "label") false, .name "lid"]
    let g : Formula := .array [.member (.name "box") (.name "label") false, .literal (.text "y") none]
    let s := Setting.sample
    f.IsStatic ∧ g.IsStatic ∧
      ((f.resolve s.scope (.root 3)).result = .unknown ∧
        .notFound "lid" ∈ (analyze s.scope f (.root 3)).faults) ∧
      (∃ v, (g.resolve s.scope (.root 3)).result = .value v ∧
        g.Twin (.root 3) (.root 4) v (.array (.root 4) [.text "x", .text "y"])) ∧
      ∃ o, (evaluate s g (.root 4)).result = .ok o ∧ o.value = .array (.root 4) [.text "x", .text "y"] := by
  intro f g s
  have hbox : IsStatic (.member (.name "box") (.name "label") false) := .dotted "label" (.inl rfl) (.name "box")
  have hf : f.IsStatic := by
    refine .array fun e he => ?_
    rcases List.mem_cons.1 he with rfl | he
    · exact hbox
    · obtain rfl := List.mem_singleton.1 he
      exact .name "lid"
  have hg : g.IsStatic := by
    refine .array fun e he => ?_
    rcases List.mem_cons.1 he with rfl | he
    · exact hbox
    · obtain rfl := List.mem_singleton.1 he
      exact .literal _ _
  obtain ⟨-, -, herror⟩ := resolve_complete (s := s) hf (.root 3) (.root 4)
  obtain ⟨hu, hm⟩ := herror (.notFound "lid") rfl
  obtain ⟨hiff, hok, -⟩ := resolve_complete (s := s) hg (.root 3) (.root 4)
  exact ⟨hf, hg, ⟨hu, hm (.notFound "lid")⟩, hok _ rfl, (hiff _).1 rfl⟩

end GatedFormula
