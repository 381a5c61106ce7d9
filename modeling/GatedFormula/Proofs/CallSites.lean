/-
  The path of a call site leads to the function that is called.
  - `Setting.reach` looks up the first step of a path in the context and reads every other one by the gate.
  - `Formula.reach_resolvePath`: the steps of a callee, if all are known, lead to its value, and a function
    that was read from a member is bound to what the steps before the last one lead to.
-/
import GatedFormula.Proofs.Resolution
import GatedFormula.Proofs.Success

namespace GatedFormula

/-- Reads the member that a step stands for, if that is permitted. -/
def Setting.follow (s : Setting) (v : Value) (step : Segment) : Option Value :=
  step.key?.bind fun k => (readMember s.policy v k).toOption

/-- The value that a path leads to: a name of the context first, then members. -/
def Setting.reach (s : Setting) : List Segment → Option Value
  | .name n :: rest => (s.context.get? n).bind fun v => rest.foldlM s.follow v
  | _ => none

theorem Setting.reach_append {s : Setting} {path : List Segment} {v : Value} (h : s.reach path = some v)
    (step : Segment) : s.reach (path ++ [step]) = s.follow v step := by
  cases path with
  | nil => cases h
  | cons first rest =>
    cases first with
    | name n =>
      simp only [reach, Option.bind_eq_some_iff] at h
      obtain ⟨w, hw, hr⟩ := h
      simp only [List.cons_append, reach, hw, Option.bind_some, List.foldlM_append, hr]
      simp
    | _ => cases h

/-- What is read is a member of something by a permitted key. -/
theorem Setting.read_eq_ok {s : Setting} {object key m : Value} (h : s.read object key = .ok m) :
    ∃ k, key.key? = some k ∧ readMember s.policy object k = .ok m := by
  unfold Setting.read at h
  by_cases hu : object.isUndefined
  · rw [if_pos hu] at h
    cases h
  · rw [if_neg hu] at h
    cases hk : key.key? with
    | none => rw [hk] at h; cases h
    | some k => rw [hk] at h; exact ⟨k, rfl, h⟩

theorem readMember_eq_ok {policy : Option Policy} {v m : Value} {k : Key} (h : readMember policy v k = .ok m) :
    m = v.member k := by
  unfold readMember at h
  by_cases hp : isPermitted policy v k
  · rw [if_pos hp] at h
    exact (Except.ok.inj h).symm
  · rw [if_neg hp] at h
    cases h

/-- A function is bound to what it was read from. -/
theorem Value.receiver_of_member {v : Value} {k : Key} {g : Function} {r : Option Value}
    (h : v.member k = .function g r) : r = some v := by
  unfold Value.member at h
  cases hs : v.stored? k with
  | none => rw [hs] at h; cases h
  | some m =>
    rw [hs] at h
    cases m with
    | function => cases h; rfl
    | _ => cases h

/-! ## Steps and call sites -/

namespace Static

theorem pathOf_cases (step : Resolution Segment) (object : Resolution (List Segment)) :
    (pathOf step object).result = [step.result] ∧ step.result.isUnknown ∨
      (pathOf step object).result = object.result ++ [step.result] ∧ step.result.isUnknown = false := by
  have hr : (pathOf step object).result =
      (if step.result.isUnknown then pure [step.result] else object >>= fun path =>
        pure (path ++ [step.result]) : Resolution (List Segment)).result := rfl
  rw [hr]
  by_cases hu : step.result.isUnknown
  · rw [if_pos hu]
    exact .inl ⟨rfl, hu⟩
  · rw [if_neg hu]
    exact .inr ⟨rfl, Bool.eq_false_iff.2 hu⟩

/-- A path that ends in a name gives a call site with what is known of the arguments. -/
theorem siteOf_result (path : Resolution (List Segment)) (args : List (Resolution Descriptor)) :
    (siteOf path args).result = match path.result.reverse with
      | .name n :: outer => some ⟨n, outer.reverse, args.map Resolution.result⟩
      | _ => none := by
  change (match path.result.reverse with
    | .name n :: outer => do
      let args ← allOf args
      pure (some (⟨n, outer.reverse, args⟩ : CallSite))
    | _ => (pure none : Resolution (Option CallSite))).result = _
  rw [← result_allOf]
  rcases path.result.reverse with - | ⟨_ | _ | _ | _, outer⟩ <;> rfl

/-- A call site has the steps to its callee and what is known of its arguments. -/
theorem siteOf_eq_some {path : Resolution (List Segment)} {args : List (Resolution Descriptor)}
    {site : CallSite} (h : (siteOf path args).result = some site) :
    path.result = site.path ++ [.name site.name] ∧ site.args = args.map Resolution.result := by
  rw [siteOf_result] at h
  split at h
  · rename_i n outer hp
    obtain rfl := Option.some.inj h
    rw [List.reverse_eq_iff, List.reverse_cons] at hp
    exact ⟨hp, rfl⟩
  · cases h

theorem siteOf_of_concat {path : Resolution (List Segment)} {outer : List Segment} {n : String}
    (h : path.result = outer ++ [.name n]) (args : List (Resolution Descriptor)) :
    (siteOf path args).result = some ⟨n, outer, args.map Resolution.result⟩ := by
  rw [siteOf_result, h, List.reverse_append]
  simp

end Static

theorem Formula.resolveCall_eq_some {scope : Scope} {callee : Formula} {arguments : List Formula} {p : Place}
    {site : CallSite} (h : (resolveCall scope callee arguments p).result = some site) :
    (resolvePath scope callee (p.child 0)).result = site.path ++ [.name site.name] ∧
      site.args = (resolveEach scope arguments p 1).map Resolution.result :=
  Static.siteOf_eq_some h

namespace Formula

open Static

variable {s : Setting} {scope : Scope}

/-- A path leads to a value; if that is a function at the end of several steps, it is bound to what the steps
before the last one lead to. -/
structure LeadsTo (s : Setting) (path : List Segment) (v : Value) : Prop where
  reach : s.reach path = some v
  bound : ∀ outer last g r, path = outer ++ [last] → outer ≠ [] → v = .function g r →
    ∃ w, s.reach outer = some w ∧ r = some w

/-- One more step leads to the member that plain evaluation reads. -/
theorem LeadsTo.member {path : List Segment} {step : Segment} {k : Key} {v m : Value}
    (h : LeadsTo s path v) (hk : step.key? = some k) (hm : readMember s.policy v k = .ok m) :
    LeadsTo s (path ++ [step]) m := by
  constructor
  · rw [Setting.reach_append h.reach, Setting.follow, hk, Option.bind_some, hm]
    rfl
  · intro outer last g r hp _ hg
    obtain ⟨rfl, -⟩ := List.append_inj' hp rfl
    rw [readMember_eq_ok hm] at hg
    exact ⟨v, h.reach, Value.receiver_of_member hg⟩

theorem leadsTo_name {n : String} {v : Value} (h : s.context.get? n = some v) : LeadsTo s [.name n] v := by
  constructor
  · rw [Setting.reach, h]
    rfl
  · intro outer last g r hp ho
    cases outer with
    | nil => exact absurd rfl ho
    | cons _ outer => cases outer <;> cases hp

/-- What plain evaluation of a member reads. -/
theorem inTurn_member_eq_ok {object property : Formula} {computed : Bool} {q : Place} {o : Outcome}
    (h : (inTurn s (.member object property computed) q).result = .ok o) :
    ∃ a key, (inTurn s object (q.child 0)).result = .ok a ∧
      (keyInTurn s computed property (q.child 1)).result = .ok key ∧
        s.read a.value key.value = .ok o.value := by
  cases succeeds h with
  | @member _ _ _ _ a key _ ha hk hv => exact ⟨a, key, ha, hk, hv⟩

/-- **The steps of a callee lead to its value.** -/
theorem leadsTo_resolvePath (h : scope.Fits s) : (f : Formula) → (p q : Place) →
    (∀ step ∈ (resolvePath scope f p).result, step.isUnknown = false) →
      ∀ o, (f.inTurn s q).result = .ok o → LeadsTo s (resolvePath scope f p).result o.value
  | .name n, p, q, _, o, ho => by
    rw [inTurn] at ho
    cases hn : s.context.get? n with
    | none => rw [hn] at ho; cases ho
    | some v => rw [hn] at ho; cases ho; exact leadsTo_name hn
  | .member object property computed, p, q, hu, o, ho => by
    rw [resolvePath] at hu ⊢
    rcases pathOf_cases (stepOf computed property (resolve scope property (p.child 1)))
      (resolvePath scope object (p.child 0)) with ⟨hp, hs⟩ | ⟨hp, hs⟩
    · rw [hp] at hu
      cases hs.symm.trans (hu _ List.mem_cons_self)
    · rw [hp] at hu ⊢
      obtain ⟨a, key, ha, hkey, hread⟩ := inTurn_member_eq_ok ho
      have hl := leadsTo_resolvePath h object (p.child 0) (q.child 0)
        (fun step hm => hu step (List.mem_append_left _ hm)) a ha
      obtain ⟨key', hk', -, hstep⟩ :=
        keyInTurn_of_stepOf (fun _ => resolve_foretells h property (p.child 1) (q.child 1)) hs
      rw [hk'] at hkey
      obtain rfl := Except.ok.inj hkey
      obtain ⟨k, hk, hm⟩ := Setting.read_eq_ok hread
      exact hl.member (hstep.symm.trans hk) hm
  | .array _, _, _, hu, _, _ | .binary .., _, _, hu, _, _ | .call .., _, _, hu, _, _
  | .sequence _, _, _, hu, _, _ | .conditional .., _, _, hu, _, _ | .literal .., _, _, hu, _, _
  | .logical .., _, _, hu, _, _ | .self, _, _, hu, _, _ | .unary .., _, _, hu, _, _ => by
    cases hu .unknown List.mem_cons_self

end Formula

/-- **A call site names the function that is called.** If every step to the function is known, the callee
gives nothing but the value that the steps and the name lead to, and a function with steps before its name
is bound to what they lead to. So it is with every call that an evaluation makes there. -/
theorem resolveCall_sound {s : Setting} {scope : Scope} (h : scope.Fits s) {callee : Formula}
    {arguments : List Formula} {p : Place} {site : CallSite}
    (hs : (Formula.resolveCall scope callee arguments p).result = some site)
    (hu : ∀ step ∈ site.path, step.isUnknown = false) :
    (∀ q o, (evaluate s callee q).result = .ok o →
      s.reach (site.path ++ [.name site.name]) = some o.value ∧
        (site.path ≠ [] → ∀ g r, o.value = .function g r →
          ∃ v, s.reach site.path = some v ∧ r = some v)) ∧
    ∀ f origin c, Formula.HasNode f origin (.call callee arguments) c.site →
      c ∈ (evaluate s f origin).invocations →
        s.reach (site.path ++ [.name site.name]) = some (.function c.function c.receiver) ∧
          (site.path ≠ [] → ∃ v, s.reach site.path = some v ∧ c.receiver = some v) := by
  obtain ⟨hp, -⟩ := Formula.resolveCall_eq_some hs
  have hl : ∀ q o, (callee.inTurn s q).result = .ok o →
      Formula.LeadsTo s (site.path ++ [.name site.name]) o.value := by
    intro q o ho
    rw [← hp]
    refine Formula.leadsTo_resolvePath h callee (p.child 0) q (fun step hm => ?_) o ho
    rw [hp, List.mem_append, List.mem_singleton] at hm
    rcases hm with hm | rfl
    · exact hu step hm
    · rfl
  constructor
  · intro q o ho
    have hq := hl q o ((evaluate_agrees s callee q).ok_iff.2 ho)
    exact ⟨hq.reach, fun hne g r hg => hq.bound _ _ g r rfl hne hg⟩
  · intro f origin c hn hc
    obtain ⟨hn', ho, hg, -⟩ := arises_of_mem s f origin hc
    obtain ⟨rfl, rfl⟩ := Formula.call.inj (hn.unique hn')
    have hq := hl _ _ ho
    rw [hg] at hq
    exact ⟨hq.reach, fun hne => hq.bound _ _ _ _ rfl hne rfl⟩

theorem resolveCall_sound_echo :
    let callee : Formula := .member (.name "box") (.name "echo") false
    let f : Formula := .call callee [.literal (.text "a") none]
    let s := Setting.sample
    s.scope.Fits s ∧
      (Formula.resolveCall s.scope callee [.literal (.text "a") none] (.root 3)).result =
        some ⟨"echo", [.name "box"], [.value (.text "a")]⟩ ∧
      ∃ c ∈ (evaluate s f (.root 4)).invocations,
        s.reach [.name "box", .name "echo"] = some (.function c.function c.receiver) ∧
          ∃ v, s.reach [.name "box"] = some v ∧ c.receiver = some v := by
  intro callee f s
  have h := s.fits_scope
  have hs : (Formula.resolveCall s.scope callee [.literal (.text "a") none] (.root 3)).result =
      some ⟨"echo", [.name "box"], [.value (.text "a")]⟩ := rfl
  have hc : (evaluate s f (.root 4)).invocations = [_] := rfl
  refine ⟨h, hs, _, hc ▸ List.mem_singleton_self _, ?_⟩
  have hr := (resolveCall_sound h hs (by simp [Segment.isUnknown])).2 f (.root 4) _ (.root f (.root 4))
    (hc ▸ List.mem_singleton_self _)
  exact ⟨hr.1, hr.2 (List.cons_ne_nil _ _)⟩

end GatedFormula
