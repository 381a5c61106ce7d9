/-
  Calls whose arguments a signature accepts get arguments of its types.
  - `ArgType.Admits`: a value is of a type.
  - `ArgType.admits_of_accepts`: what is described by an accepted descriptor is of the type.
  - `accepts_sound`: so it is, position by position, for every call made where a call site was accepted.
-/
import GatedFormula.Proofs.CallSites
import GatedFormula.Signature.Basic

namespace GatedFormula

/-- Is the value an array of values of a type only? -/
def Value.ArrayOf (t : TypeName) (v : Value) : Prop :=
  ∃ ws, v.items? = some ws ∧ ∀ w ∈ ws, w.typeName = t

/-- Is the value of a type? A check of descriptors says nothing about values. -/
def ArgType.Admits : ArgType → Value → Prop
  | .any, _ => True
  | .text, v => v.typeName = .text
  | .number, v => v.typeName = .number
  | .boolean, v => v.typeName = .boolean
  | .anyArray, v => ∃ ws, v.items? = some ws
  | .textArray, v => v.ArrayOf .text
  | .numberArray, v => v.ArrayOf .number
  | .booleanArray, v => v.ArrayOf .boolean
  | .predicate _, _ => False

namespace Formula

variable {f : Formula} {elements : List Formula} {p q : Place} {v w : Value} {t : TypeName}

/-! ## Types of twins and of what is described -/

theorem Twin.typeName_eq (h : f.Twin p q v w) : v.typeName = w.typeName := by
  cases h with
  | taken => rfl
  | made => rfl

theorem Twins.forall_typeName {i : Nat} {vs ws : List Value} (h : Twins elements p q i vs ws)
    (hv : ∀ v ∈ vs, v.typeName = t) : ∀ w ∈ ws, w.typeName = t := by
  induction elements generalizing i vs ws with
  | nil => cases h; exact hv
  | cons f rest ih =>
    obtain _ | ⟨hf, hr⟩ := h
    intro w hw
    rcases List.mem_cons.1 hw with rfl | hw
    · rw [← hf.typeName_eq]
      exact hv _ List.mem_cons_self
    · exact ih hr (fun v hm => hv v (List.mem_cons_of_mem _ hm)) w hw

theorem Describes.typeName_eq {d : Descriptor} (h : f.Describes p q d w) (hd : ArgType.hasType t d) :
    w.typeName = t := by
  cases h with
  | value hw => rw [← hw.typeName_eq]; exact eq_of_beq hd
  | _ => cases hd

theorem DescribesAll.forall_typeName {i : Nat} {ds : List Descriptor} {ws : List Value}
    (h : DescribesAll elements p q i ds ws) (hd : ∀ d ∈ ds, ArgType.hasType t d) :
    ∀ w ∈ ws, w.typeName = t := by
  induction elements generalizing i ds ws with
  | nil => cases h; nofun
  | cons f rest ih =>
    obtain _ | ⟨hf, hr⟩ := h
    intro w hw
    rcases List.mem_cons.1 hw with rfl | hw
    · exact hf.typeName_eq (hd _ List.mem_cons_self)
    · exact ih hr (fun d hm => hd d (List.mem_cons_of_mem _ hm)) w hw

/-- What is described as an array of values of a type is one. -/
theorem Describes.arrayOf {d : Descriptor} (h : f.Describes p q d w) (hd : ArgType.holds t d) :
    w.ArrayOf t := by
  cases h with
  | value hw =>
    cases hw with
    | taken =>
      cases w with
      | array id ws =>
        rw [ArgType.holds, List.all_eq_true] at hd
        exact ⟨ws, rfl, fun w hw => eq_of_beq (hd w hw)⟩
      | _ => cases hd
    | made hs =>
      rw [ArgType.holds, List.all_eq_true] at hd
      exact ⟨_, rfl, hs.forall_typeName fun v hv => eq_of_beq (hd v hv)⟩
  | array ha =>
    rw [ArgType.holds, List.all_eq_true] at hd
    exact ⟨_, rfl, ha.forall_typeName hd⟩
  | _ => cases hd

end Formula

/-- **What an accepted descriptor describes is of the type.** -/
theorem ArgType.admits_of_accepts {type : ArgType} {f : Formula} {p q : Place} {d : Descriptor} {w : Value}
    (h : f.Describes p q d w) (ha : type.accepts d) (ht : ∀ check, type ≠ .predicate check) :
    type.Admits w := by
  cases type with
  | any => trivial
  | text | number | boolean => exact h.typeName_eq ha
  | anyArray =>
    cases h with
    | value hw =>
      cases hw with
      | taken =>
        cases w with
        | array id ws => exact ⟨ws, rfl⟩
        | _ => cases ha
      | made => exact ⟨_, rfl⟩
    | array => exact ⟨_, rfl⟩
    | _ => cases ha
  | textArray | numberArray | booleanArray => exact h.arrayOf ha
  | predicate check => exact absurd rfl (ht check)

namespace Signature

variable {sig : Signature}

theorem acceptsAt_of_acceptsFrom {i j : Nat} {ds : List Descriptor} {types : List ArgType} {d : Descriptor}
    {type : ArgType} (h : sig.acceptsFrom i ds types) (hd : ds[j]? = some d) (ht : types[j]? = some type) :
    sig.acceptsAt (i + j) d type := by
  induction j generalizing i ds types with
  | zero =>
    obtain _ | ⟨d', ds⟩ := ds
    · cases hd
    obtain _ | ⟨t', types⟩ := types
    · cases ht
    obtain rfl := Option.some.inj hd
    obtain rfl := Option.some.inj ht
    rw [acceptsFrom, Bool.and_eq_true] at h
    exact h.1
  | succ j ih =>
    obtain _ | ⟨d', ds⟩ := ds
    · cases hd
    obtain _ | ⟨t', types⟩ := types
    · cases ht
    rw [acceptsFrom, Bool.and_eq_true] at h
    rw [← Nat.succ_add_eq_add_succ]
    exact ih h.2 hd ht

/-- A known argument that is right at a position is explicitly missing beyond the required ones, or of the
type. -/
theorem admits_of_acceptsAt {i : Nat} {f : Formula} {p q : Place} {d : Descriptor} {type : ArgType}
    {w : Value} (h : f.Describes p q d w) (ha : sig.acceptsAt i d type) (hc : d.isCall = false)
    (hu : d.isUnknown = false) (ht : ∀ check, type ≠ .predicate check) :
    w = .undefined ∧ sig.requiredCount ≤ i ∨ type.Admits w := by
  unfold acceptsAt at ha
  split at ha
  · rw [Bool.or_eq_true, decide_eq_true_eq] at ha
    rcases ha with hi | ha
    · obtain ⟨hw⟩ := h
      exact .inl ⟨(hw.eq_of_items rfl).symm, hi⟩
    · exact .inr (ArgType.admits_of_accepts h ha ht)
  · cases hc
  · cases hu
  · exact .inr (ArgType.admits_of_accepts h ha ht)

/-- The same for arguments that are accepted together. -/
theorem admits_of_accepts {types : List ArgType} (hsig : sig.args = .positional types)
    (hp : ∀ check, .predicate check ∉ types) {arguments : List Formula} {p q : Place} {k i : Nat}
    {ds : List Descriptor} {ws : List Value} (h : Formula.DescribesAll arguments p q k ds ws)
    (ha : sig.accepts ds) {d : Descriptor} {type : ArgType} (hd : ds[i]? = some d)
    (ht : types[i]? = some type) (hc : d.isCall = false) (hu : d.isUnknown = false) :
    ∃ v, ws[i]? = some v ∧ (v = .undefined ∧ sig.requiredCount ≤ i ∨ type.Admits v) := by
  rw [accepts, hsig, Bool.and_eq_true] at ha
  obtain ⟨g, v, -, hv, hg⟩ := h.get hd
  have hat := acceptsAt_of_acceptsFrom ha.2 hd ht
  rw [Nat.zero_add] at hat
  refine ⟨v, hv, admits_of_acceptsAt hg hat hc hu fun check he => ?_⟩
  exact hp check (he ▸ List.mem_of_getElem? ht)

/-- Accepted arguments are as many as required. -/
theorem required_of_accepts {types : List ArgType} (hsig : sig.args = .positional types)
    {ds : List Descriptor} (ha : sig.accepts ds) : sig.requiredCount ≤ ds.length := by
  rw [accepts, hsig, Bool.and_eq_true] at ha
  exact of_decide_eq_true ha.1

/-- Without leave for nested calls and unknown values, no accepted argument is one at a declared position. -/
theorem known_of_accepts {types : List ArgType} (hsig : sig.args = .positional types)
    (hcalls : sig.acceptsCalls = false) (hunknown : sig.acceptsUnknown = false) {i : Nat}
    {ds : List Descriptor} (ha : sig.accepts ds) {d : Descriptor} {type : ArgType} (hd : ds[i]? = some d)
    (ht : types[i]? = some type) : d.isCall = false ∧ d.isUnknown = false := by
  rw [accepts, hsig, Bool.and_eq_true] at ha
  have hat := acceptsAt_of_acceptsFrom ha.2 hd ht
  cases d with
  | call => rw [acceptsAt, hcalls] at hat; cases hat
  | unknown => rw [acceptsAt, hunknown] at hat; cases hat
  | _ => exact ⟨rfl, rfl⟩

end Signature

/-- The arguments of a call are as they were described at its call site. -/
theorem describesAll_of_mem {s : Setting} {scope : Scope} (h : scope.Fits s) {callee : Formula}
    {arguments : List Formula} {p : Place} {site : CallSite}
    (hs : (Formula.resolveCall scope callee arguments p).result = some site) {f : Formula} {origin : Place}
    {c : Invocation} (hn : f.HasNode origin (.call callee arguments) c.site)
    (hc : c ∈ (evaluate s f origin).invocations) :
    Formula.DescribesAll arguments p c.site 1 site.args c.arguments := by
  obtain ⟨-, hargs⟩ := Formula.resolveCall_eq_some hs
  obtain ⟨hn', -, -, houts⟩ := arises_of_mem s f origin hc
  obtain ⟨rfl, rfl⟩ := Formula.call.inj (hn.unique hn')
  rw [hargs]
  exact (Formula.resolveEach_foretells h arguments p _ 1).describes _ houts

/-- **Accepted calls get arguments of the declared types.** Where a positional signature without checks of its
own accepts the arguments of a call site, every call that an evaluation makes there has as many arguments,
no fewer than required. An argument that was neither a call nor unknown is of the type of its position, or
it is explicitly missing beyond the required ones. If nested calls and unknown values are not accepted, this
is true of all declared positions. -/
theorem accepts_sound {s : Setting} {scope : Scope} (h : scope.Fits s) {sig : Signature}
    {types : List ArgType} (hsig : sig.args = .positional types) (hp : ∀ check, .predicate check ∉ types)
    {callee : Formula} {arguments : List Formula} {p : Place} {site : CallSite}
    (hs : (Formula.resolveCall scope callee arguments p).result = some site) (ha : sig.accepts site.args)
    {f : Formula} {origin : Place} {c : Invocation}
    (hn : f.HasNode origin (.call callee arguments) c.site) (hc : c ∈ (evaluate s f origin).invocations) :
    c.arguments.length = site.args.length ∧ sig.requiredCount ≤ c.arguments.length ∧
    (∀ (i : Nat) (d : Descriptor) (type : ArgType), site.args[i]? = some d → types[i]? = some type →
      d.isCall = false → d.isUnknown = false → ∃ v, c.arguments[i]? = some v ∧
        (v = .undefined ∧ sig.requiredCount ≤ i ∨ type.Admits v)) ∧
    (sig.acceptsCalls = false → sig.acceptsUnknown = false →
      ∀ (i : Nat) (type : ArgType), types[i]? = some type →
        c.arguments.length ≤ i ∧ sig.requiredCount ≤ i ∨ ∃ v, c.arguments[i]? = some v ∧
          (v = .undefined ∧ sig.requiredCount ≤ i ∨ type.Admits v)) := by
  have hd := describesAll_of_mem h hs hn hc
  have hl := hd.length_eq
  have hreq := Signature.required_of_accepts hsig ha
  refine ⟨hl.symm, hl ▸ hreq, ?_, ?_⟩
  · intro i d type hi ht hcall hunk
    exact Signature.admits_of_accepts hsig hp hd ha hi ht hcall hunk
  · intro hcalls hunknown i type ht
    by_cases hi : i < site.args.length
    · have hi' : site.args[i]? = some site.args[i] := List.getElem?_eq_getElem hi
      obtain ⟨hcall, hunk⟩ := Signature.known_of_accepts hsig hcalls hunknown ha hi' ht
      exact .inr (Signature.admits_of_accepts hsig hp hd ha hi' ht hcall hunk)
    · rw [Nat.not_lt] at hi
      exact .inl ⟨hl ▸ hi, Nat.le_trans hreq hi⟩

theorem accepts_sound_echo :
    let callee : Formula := .member (.name "box") (.name "echo") false
    let f : Formula := .call callee [.literal (.text "a") none]
    let s := Setting.sample
    let sig : Signature := { args := .positional [.text, .any], required := some 1 }
    s.scope.Fits s ∧ (∀ check, ArgType.predicate check ∉ [.text, .any]) ∧
      sig.accepts [.value (.text "a")] ∧ ∃ c ∈ (evaluate s f (.root 4)).invocations,
        c.arguments.length = 1 ∧ ∃ v, c.arguments[0]? = some v ∧ ArgType.text.Admits v := by
  intro callee f s sig
  have h := s.fits_scope
  have hp : ∀ check, ArgType.predicate check ∉ [.text, .any] := by simp
  have hs : (Formula.resolveCall s.scope callee [.literal (.text "a") none] (.root 3)).result =
      some ⟨"echo", [.name "box"], [.value (.text "a")]⟩ := rfl
  have ha : sig.accepts [.value (.text "a")] := rfl
  have hc : (evaluate s f (.root 4)).invocations = [_] := rfl
  refine ⟨h, hp, ha, _, hc ▸ List.mem_singleton_self _, ?_⟩
  obtain ⟨hl, -, hpos, -⟩ := accepts_sound h rfl hp hs ha (.root f (.root 4))
    (hc ▸ List.mem_singleton_self _)
  obtain ⟨v, hv, ⟨-, hr⟩ | hv'⟩ := hpos 0 _ .text rfl rfl rfl rfl
  · cases hr
  · exact ⟨hl, v, hv, hv'⟩

end GatedFormula
