/-
  What a policy can change.
  - A policy matters only by what it permits: two policies that permit the same act alike on every formula
    (`actAlike_of_permits`).
  - A wider policy changes no success (`evaluate_of_wider`), and no analysis without a denial
    (`alike_of_no_denial`): every read that is attempted quietly is attempted aloud somewhere else.
  - `policy_only_gates` puts all that together.
-/
import GatedFormula.Proofs.Reports
import GatedFormula.Proofs.Unstarted

namespace GatedFormula

/-- The second policy permits whatever the first one does. -/
def Wider (policy policy' : Option Policy) : Prop :=
  ∀ v k, isPermitted policy v k = true → isPermitted policy' v k = true

/-- Both policies permit the same. -/
def SamePermits (policy policy' : Option Policy) : Prop :=
  ∀ v k, isPermitted policy v k = isPermitted policy' v k

/-- Two policies act alike on a formula: its evaluation is the same, and so is its analysis in any context, with
all journals. -/
def ActAlike (s : Setting) (f : Formula) (origin : Place) (policy policy' : Option Policy) : Prop :=
  evaluate (s.under policy) f origin = evaluate (s.under policy') f origin ∧
    ∀ context, analyzed ⟨context, policy⟩ f origin = analyzed ⟨context, policy'⟩ f origin

variable {s : Setting} {policy policy' : Option Policy}

theorem readMember_of_permitted {v : Value} {k : Key} (h : isPermitted policy v k = true) :
    readMember policy v k = .ok (v.member k) := by
  rw [readMember, if_pos h]

theorem readMember_congr (h : SamePermits policy policy') (v : Value) (k : Key) :
    readMember policy v k = readMember policy' v k := by
  rw [readMember, readMember, h v k]

/-! ## Evaluation -/

/-- What can be read can be read under a wider policy. -/
theorem read_of_wider (h : Wider s.policy policy) {object key v : Value} (hr : s.read object key = .ok v) :
    (s.under policy).read object key = .ok v := by
  obtain ⟨k, hk, hm⟩ := Setting.read_eq_ok hr
  have hu : object.isUndefined = false := by
    refine Bool.eq_false_iff.2 fun hu => ?_
    rw [Setting.read, if_pos hu] at hr
    cases hr
  have hp := h object k (isPermitted_of_readMember hm)
  rw [readMember_eq_ok hm]
  simp only [Setting.read, hu, hk]
  exact readMember_of_permitted hp

/-- On the way to a success every read succeeds, so a wider policy lets the same be read. -/
theorem Formula.runsAlike_of_wider (h : Wider s.policy policy) {f : Formula} {origin : Place} {o : Outcome}
    (ho : (f.inTurn s origin).result = .ok o) : f.RunsAlike s policy f origin := by
  refine ⟨.refl f origin, fun hv a key ha hk => ?_⟩
  obtain ⟨_, h'⟩ := ok_of_visits hv ho
  obtain ⟨a', key', ha', hk', hr⟩ := inTurn_member_eq_ok h'
  obtain rfl := Except.ok.inj (ha'.symm.trans ha)
  obtain rfl := Except.ok.inj (hk'.symm.trans hk)
  rw [Activity.reading, read_of_wider h hr, Activity.reading, hr]

/-- **A success stays the same under a wider policy**, with all that happens on the way. -/
theorem evaluate_of_wider (h : Wider s.policy policy) {f : Formula} {origin : Place} {o : Outcome}
    (ho : (evaluate s f origin).result = .ok o) : evaluate (s.under policy) f origin = evaluate s f origin :=
  evaluate_of_runsAlike (Formula.runsAlike_of_wider h ((evaluate_agrees s f origin).ok_iff.2 ho))

theorem reading_congr (h : SamePermits policy s.policy) : Activity.reading (s.under policy) = Activity.reading s := by
  funext object key
  have hr : (s.under policy).read object.value key.value = s.read object.value key.value := by
    simp only [Setting.read, Setting.under, readMember_congr h]
  have hd : (s.under policy).denied? object.value key.value = s.denied? object.value key.value := by
    simp only [Setting.denied?, Setting.under, h _ _]
  rw [Activity.reading, hr, hd, Activity.reading]

/-- **Under policies that permit the same, evaluations are the same.** -/
theorem evaluate_of_samePermits (h : SamePermits policy s.policy) (f : Formula) (origin : Place) :
    evaluate (s.under policy) f origin = evaluate s f origin :=
  evaluate_of_runsAlike ⟨.refl f origin, fun _ a key _ _ => congrFun (congrFun (reading_congr h) a) key⟩

/-! ## Analysis -/

/-- Is it the fault of a read that is not permitted? -/
def Fault.isDenial : Fault → Bool
  | .denied .. => true
  | _ => false

/-- A node that attempts to read has a fault if that is refused. -/
theorem Formula.blame?_of_attempt? {scope : Scope} {f : Formula} {p : Place} {v : Value} {k : Key}
    (h : f.attempt? scope p = some (v, k)) : f.blame? scope p = refusal? scope.policy v k := by
  cases hc : scope.context with
  | none =>
    rw [attempt?_of_none hc] at h
    cases h
  | some c =>
    cases f with
    | member object property computed =>
      rw [blame?, hc, Option.bind_some]
      rw [attempt?] at h
      unfold Static.memberFault?
      split
      · rename_i hb
        rw [hb] at h
        cases h
      · rw [h]
        rfl
    | _ => cases h

/-- Where an analysis has no denial, a wider policy lets the same be read at every attempt. -/
theorem alike_of_no_denial {context : Option Context} {f : Formula} {origin : Place} (h : Wider policy policy')
    (hd : ∀ g ∈ (analyze ⟨context, policy⟩ f origin).faults, g.isDenial = false) :
    Scope.Alike ⟨context, policy⟩ ⟨context, policy'⟩ (f.walked origin) := by
  refine ⟨rfl, fun n hn v k ha => ?_⟩
  have hb := Formula.blame?_of_attempt? ha
  have hp : isPermitted policy v k = true := by
    by_contra hp
    rw [refusal?, if_neg hp] at hb
    have hm : denial v k ∈ (analyze ⟨context, policy⟩ f origin).faults :=
      (faults_perm _ f origin).mem_iff.2 (List.mem_filterMap.2 ⟨n, hn, hb⟩)
    cases hd _ hm
  rw [readMember_of_permitted hp, readMember_of_permitted (h v k hp)]

/-- **Policies that permit the same act alike.** -/
theorem actAlike_of_permits (h : SamePermits policy policy') (f : Formula) (origin : Place) :
    ActAlike s f origin policy policy' := by
  constructor
  · exact evaluate_of_samePermits (s := s.under policy') h f origin
  · exact fun context => analyzed_congr ⟨rfl, fun n _ v k _ => readMember_congr h v k⟩

/-! ## Policies by their checks -/

/-- Checks that all refuse permit nothing, as no policy does. -/
theorem samePermits_none {p : Policy} (h : ∀ c ∈ p.checks, ∀ v k, c v k = false) : SamePermits (some p) none := by
  intro v k
  change (p.checks.any fun c => c v k) = false
  rw [List.any_eq_false]
  intro c hc
  rw [h c hc v k]
  exact Bool.false_ne_true

/-- Neither the order of checks nor how often one stands there matters to what they permit. -/
theorem samePermits_of_mem_iff {checks checks' : List Check} (h : ∀ c, c ∈ checks ↔ c ∈ checks') :
    SamePermits (some ⟨checks⟩) (some ⟨checks'⟩) := by
  intro v k
  change (checks.any fun c => c v k) = checks'.any fun c => c v k
  rw [Bool.eq_iff_iff, List.any_eq_true, List.any_eq_true]
  simp only [h]

/-- **A policy only gates reads.** A wider one changes no success and no analysis without a denial; all else that
matters about a policy is what it permits, and where it permits nothing, no success visits a member. -/
theorem policy_only_gates (s : Setting) (f : Formula) (origin : Place) :
    (∀ policy policy', Wider policy policy' →
      (∀ o, (evaluate (s.under policy) f origin).result = .ok o →
        evaluate (s.under policy') f origin = evaluate (s.under policy) f origin) ∧
      ((∀ g ∈ (analyze ⟨some s.context, policy⟩ f origin).faults, g.isDenial = false) →
        analyzed ⟨some s.context, policy'⟩ f origin = analyzed ⟨some s.context, policy⟩ f origin)) ∧
    (∀ policy policy', SamePermits policy policy' → ActAlike s f origin policy policy') ∧
    (∀ p : Policy, (∀ c ∈ p.checks, ∀ v k, c v k = false) → ActAlike s f origin (some p) none) ∧
    (∀ checks checks' : List Check, (∀ c, c ∈ checks ↔ c ∈ checks') →
      ActAlike s f origin (some ⟨checks⟩) (some ⟨checks'⟩)) ∧
    ∀ policy, (∀ v k, isPermitted policy v k = false) →
      ∀ o, (evaluate (s.under policy) f origin).result = .ok o →
        ∀ object property computed q,
          ¬ f.Visits (s.under policy) origin (.member object property computed) q := by
  refine ⟨fun policy policy' h => ⟨fun o ho => ?_, fun hd => ?_⟩, fun policy policy' h => ?_, fun p h => ?_,
    fun checks checks' h => ?_, fun policy h o ho object property computed q hv => ?_⟩
  · exact evaluate_of_wider (s := s.under policy) h ho
  · exact analyzed_congr (alike_of_no_denial h hd)
  · exact actAlike_of_permits h f origin
  · exact actAlike_of_permits (samePermits_none h) f origin
  · exact actAlike_of_permits (samePermits_of_mem_iff h) f origin
  · obtain ⟨v, k, hp⟩ := isPermitted_of_visits ho hv
    cases (h v k).symm.trans hp

theorem policy_only_gates_label :
    let f : Formula := .member (.name "box") (.name "label") false
    let g : Formula := .conditional (.literal (.boolean true) none) (.literal (.text "a") none) f
    let s := Setting.sample
    let own : Option Policy := some ⟨[Check.ownMember]⟩
    (∃ o, (evaluate (s.under own) f (.root 3)).result = .ok o ∧
      evaluate (s.under (some .standard)) f (.root 3) = evaluate (s.under own) f (.root 3)) ∧
    ((analyze ⟨some s.context, own⟩ f (.root 3)).faults = [] ∧
      analyzed ⟨some s.context, some .standard⟩ f (.root 3) = analyzed ⟨some s.context, own⟩ f (.root 3)) ∧
    ActAlike s f (.root 3) (some .empty) (some ⟨[fun _ _ => false]⟩) ∧
    ActAlike s f (.root 3) (some .empty) none ∧
    ActAlike s f (.root 3) (some ⟨[Check.ownMember, Check.textIndex]⟩)
      (some ⟨[Check.textIndex, Check.ownMember, Check.textIndex]⟩) ∧
    (∃ o, (evaluate (s.under none) g (.root 3)).result = .ok o ∧ ∀ object property computed q,
      ¬ g.Visits (s.under none) (.root 3) (.member object property computed) q) := by
  intro f g s own
  have hw : Wider own (some .standard) := fun v k h => by
    have hv : Check.ownMember v k = true := by simpa [own, isPermitted, Policy.permits] using h
    simp [isPermitted, Policy.permits, Policy.standard, hv]
  obtain ⟨hm, hs, hn, hc, -⟩ := policy_only_gates s f (.root 3)
  obtain ⟨-, -, -, -, hg⟩ := policy_only_gates s g (.root 3)
  obtain ⟨he, ha⟩ := hm own (some .standard) hw
  have hf : (analyze ⟨some s.context, own⟩ f (.root 3)).faults = [] := rfl
  refine ⟨⟨_, rfl, he _ rfl⟩, ⟨hf, ha fun g hg => ?_⟩, hs _ _ fun _ _ => rfl, hn _ nofun, hc _ _ fun c => ?_,
    ⟨_, rfl, hg none (fun _ _ => rfl) _ rfl⟩⟩
  · rw [hf] at hg
    cases hg
  · simp only [List.mem_cons, List.not_mem_nil, or_false]
    constructor
    · rintro (h | h)
      · exact .inr (.inl h)
      · exact .inl h
    · rintro (h | h | h)
      · exact .inr h
      · exact .inl h
      · exact .inr h

end GatedFormula
