/-
  Which faults an analysis reports.
  - `Formula.blame?` is the fault of a node, if it has one.
  - A node is resolved many times: for itself, and for what is read of it. Whatever is reported on the way is the
    fault of a node (`blamed_of_mem`), and a node with a fault reports it itself (`mem_found_of_blame?`).
  - An analysis keeps the first report of each place, so it has the fault of every node once (`faults_perm`,
    `analyze_faults`).
-/
import GatedFormula.Proofs.Attempts

namespace GatedFormula

open Static

/-- The fault of a read that the policy refuses. -/
def refusal? (policy : Option Policy) (v : Value) (k : Key) : Option Fault :=
  if isPermitted policy v k then none else some (denial v k)

/-- The fault of a member, by its step and its object: its key is a boolean, or the policy refuses the read. -/
def Static.memberFault? (policy : Option Policy) (step : Segment) (object : Descriptor) : Option Fault :=
  match step with
  | .boolean _ => some (.badKey .boolean)
  | _ => (target? step object).bind fun (v, k) => refusal? policy v k

/-- The fault of the node at a place: a name that the context lacks, a member with a key that is a boolean or
with a read that is refused, or a sequence without parts. Names and members have faults only in a context. -/
def Formula.blame? (s : Scope) : Formula → Place → Option Fault
  | .name n, _ => s.context.bind fun c => if c.contains n then none else some (.notFound n)
  | .member object property computed, p => s.context.bind fun _ =>
    memberFault? s.policy (stepOf computed property (resolve s property (p.child 1))).result
      (objectOf object (resolve s object (p.child 0))).result
  | .sequence body, _ => if body.isEmpty then some .emptySequence else none
  | .array _, _ | .binary .., _ | .call .., _ | .conditional .., _ | .literal .., _ | .logical .., _ | .self, _
  | .unary .., _ => none

/-- Is it a sequence without parts? -/
def Formula.isEmptySequence : Formula → Bool
  | .sequence body => body.isEmpty
  | _ => false

/-! ## Reports of a node -/

namespace Static

variable {s : Scope}

theorem reports_bind {α β : Type} (r : Resolution α) (f : α → Resolution β) :
    (r >>= f).reports = r.reports ++ (f r.result).reports := rfl

theorem reports_nameOf (n : String) (p : Place) : (nameOf s n p).reports =
    ((s.context.bind fun c => if c.contains n then none else some (.notFound n)).map (p, ·)).toList := by
  unfold nameOf
  cases s.context with
  | none => rfl
  | some c =>
    have hc : c.contains n = (c.get? n).isSome := rfl
    simp only [Option.bind_some, hc]
    cases c.get? n <;> rfl

/-- A step reports nothing. -/
theorem reports_stepOf (computed : Bool) (property : Formula) (r : Resolution Descriptor) :
    (stepOf computed property r).reports = [] := by
  obtain ⟨d, reports, entries⟩ := r
  cases computed with
  | true => cases d <;> rfl
  | false =>
    unfold stepOf
    cases property.name? <;> rfl

theorem reports_readOf (object : Descriptor) (k : Key) (p : Place) : (readOf s object k p).reports =
    ((object.value?.bind fun v => if v.isUndefined then none else refusal? s.policy v k).map (p, ·)).toList := by
  cases object with
  | value v =>
    simp only [readOf, Descriptor.value?, Option.bind_some]
    by_cases hu : v.isUndefined
    · rw [if_pos hu, if_pos hu]
      rfl
    · rw [if_neg hu, if_neg hu, readMember, refusal?]
      by_cases hp : isPermitted s.policy v k
      · rw [if_pos hp, if_pos hp]
        rfl
      · rw [if_neg hp, if_neg hp]
        rfl
  | _ => rfl

/-- A member with a key reports what its object reports, and every member its own fault. -/
theorem reports_memberOf {c : Context} (hc : s.context = some c) {step : Resolution Segment}
    (hs : step.reports = []) (object : Resolution Descriptor) (p : Place) :
    (memberOf s step object p).reports = (if step.result.key?.isSome then object.reports else []) ++
      ((memberFault? s.policy step.result object.result).map (p, ·)).toList := by
  have hr {k : Key} {step : Segment} (hk : step.key? = some k) :
      (object >>= fun d => readOf s d k p).reports = object.reports ++
        (((target? step object.result).bind fun (v, k) => refusal? s.policy v k).map (p, ·)).toList := by
    rw [reports_bind, reports_readOf, target?, hk, Option.bind_some]
    cases object.result.value? with
    | none => rfl
    | some v => by_cases hu : v.isUndefined <;> simp [hu]
  obtain ⟨step, _, _⟩ := step
  obtain rfl : _ = [] := hs
  unfold memberOf
  simp only [hc]
  cases step with
  | unknown => rfl
  | boolean => rfl
  | name n => exact hr rfl
  | number x => exact hr rfl

end Static

namespace Formula

variable {s : Scope}

/-- The report is the fault of a node of the formula, with its place. -/
def Blamed (s : Scope) (f : Formula) (p : Place) (r : Place × Fault) : Prop :=
  ∃ g, (g, r.1) ∈ f.walked p ∧ g.blame? s r.1 = some r.2

theorem Blamed.trans {f g : Formula} {p q : Place} {r : Place × Fault} (h : (g, q) ∈ f.walked p)
    (hr : g.Blamed s q r) : f.Blamed s p r := by
  obtain ⟨m, hm, hb⟩ := hr
  exact ⟨m, walked_trans h hm, hb⟩

theorem blamed_of_mem_toList {f : Formula} {p : Place} {r : Place × Fault}
    (h : r ∈ ((f.blame? s p).map (p, ·)).toList) : f.Blamed s p r := by
  rw [Option.mem_toList, Option.map_eq_some_iff] at h
  obtain ⟨g, hg, rfl⟩ := h
  exact ⟨f, mem_walked_self f p, hg⟩

/-- **What resolving a formula reports is the fault of a node.** -/
theorem blamed_of_resolve : (f : Formula) → {p : Place} → {r : Place × Fault} →
    r ∈ (resolve s f p).reports → f.Blamed s p r
  | .name n, p, r, h => by
    rw [resolve, reports_nameOf] at h
    exact blamed_of_mem_toList h
  | .member object property computed, p, r, h => by
    cases hc : s.context with
    | none =>
      simp only [resolve, memberOf, hc] at h
      cases h
    | some c =>
      rw [resolve, reports_memberOf hc (reports_stepOf ..), List.mem_append] at h
      rcases h with h | h
      · have ho : r ∈ (objectOf object (resolve s object (p.child 0))).reports := by
          split at h
          · exact h
          · cases h
        have hw : (object, p.child 0) ∈ (member object property computed).walked p := by
          rw [walked]
          exact List.mem_cons_of_mem _ (List.mem_append_left _ (mem_walked_self ..))
        refine .trans hw (blamed_of_resolve object ?_)
        cases object with
        | member => exact ho
        | _ => cases ho
      · refine blamed_of_mem_toList ?_
        rw [blame?, hc]
        exact h
  | .call callee arguments, p, r, h => by
    rw [resolve, reports_bind] at h
    split at h <;> cases h
  | .array _, _, _, h | .binary .., _, _, h | .sequence _, _, _, h | .conditional .., _, _, h
  | .literal .., _, _, h | .logical .., _, _, h | .self, _, _, h | .unary .., _, _, h => by cases h

/-- So is what is found at a node. -/
theorem blamed_of_found {f : Formula} {p : Place} {r : Place × Fault} (h : r ∈ (f.found s p).reports) :
    f.Blamed s p r := by
  cases f with
  | name n => exact blamed_of_resolve _ h
  | member object property computed => exact blamed_of_resolve _ h
  | call callee arguments =>
    rw [found] at h
    unfold Findings.ofCall at h
    split at h <;> cases h
  | sequence body =>
    refine blamed_of_mem_toList ?_
    rw [found] at h
    rw [blame?]
    split at h
    · rwa [if_pos ‹_›]
    · cases h
  | _ => cases h

/-- A node reports its own fault. -/
theorem mem_found_of_blame? {f : Formula} {p : Place} {g : Fault} (h : f.blame? s p = some g) :
    (p, g) ∈ (f.found s p).reports := by
  cases f with
  | name n =>
    change (p, g) ∈ (nameOf s n p).reports
    rw [reports_nameOf, ← blame?, h]
    exact List.mem_singleton_self _
  | member object property computed =>
    rw [blame?, Option.bind_eq_some_iff] at h
    obtain ⟨c, hc, h⟩ := h
    change (p, g) ∈ (resolve s (.member object property computed) p).reports
    rw [resolve, reports_memberOf hc (reports_stepOf ..), h]
    exact List.mem_append_right _ (List.mem_singleton_self _)
  | sequence body =>
    rw [blame?] at h
    rw [found]
    split at h
    · rw [if_pos ‹_›]
      obtain rfl := Option.some.inj h
      exact List.mem_singleton_self _
    · cases h
  | _ => cases h

/-- **A survey reports the faults of the nodes and nothing else.** -/
theorem mem_reports_survey {f : Formula} {p : Place} {r : Place × Fault} :
    r ∈ (f.survey s p).reports ↔ f.Blamed s p r := by
  rw [survey_eq, mem_reports_gather]
  constructor
  · rintro ⟨⟨g, q⟩, hg, hr⟩
    exact .trans hg (blamed_of_found hr)
  · rintro ⟨g, hg, hb⟩
    exact ⟨(g, r.1), hg, mem_found_of_blame? hb⟩

end Formula

/-! ## First reports -/

/-- Some reports are the first ones of all places, apart from those that have been seen. -/
structure Analysis.AreFirst (seen : List Place) (reports firsts : List (Place × Fault)) : Prop where
  nodup : (firsts.map Prod.fst).Nodup
  subset : firsts ⊆ reports
  unseen : ∀ r ∈ firsts, r.1 ∉ seen
  covers : ∀ r ∈ reports, r.1 ∉ seen → r.1 ∈ firsts.map Prod.fst

namespace Analysis

theorem exists_firstReports (seen : List Place) (reports : List (Place × Fault)) :
    ∃ firsts, firstReports seen reports = firsts.map Prod.snd ∧ AreFirst seen reports firsts := by
  induction reports generalizing seen with
  | nil => exact ⟨[], rfl, List.nodup_nil, List.Subset.refl _, nofun, nofun⟩
  | cons r rest ih =>
    obtain ⟨q, g⟩ := r
    by_cases hq : q ∈ seen
    · obtain ⟨firsts, he, h⟩ := ih seen
      refine ⟨firsts, by rw [firstReports, if_pos hq, he], h.nodup, ?_, h.unseen, ?_⟩
      · exact List.subset_cons_of_subset _ h.subset
      · intro r hr hn
        rcases List.mem_cons.1 hr with rfl | hr
        · exact absurd hq hn
        · exact h.covers r hr hn
    · obtain ⟨firsts, he, h⟩ := ih (q :: seen)
      refine ⟨(q, g) :: firsts, by rw [firstReports, if_neg hq, he, List.map_cons], ?_, ?_, ?_, ?_⟩
      · rw [List.map_cons, List.nodup_cons]
        refine ⟨fun hm => ?_, h.nodup⟩
        obtain ⟨r, hr, rfl⟩ := List.mem_map.1 hm
        exact h.unseen r hr List.mem_cons_self
      · exact List.cons_subset_cons _ h.subset
      · intro r hr
        rcases List.mem_cons.1 hr with rfl | hr
        · exact hq
        · exact fun hn => h.unseen r hr (List.mem_cons_of_mem _ hn)
      · intro r hr hn
        rw [List.map_cons, List.mem_cons]
        rcases List.mem_cons.1 hr with rfl | hr
        · exact .inl rfl
        · by_cases hrq : r.1 = q
          · exact .inl hrq
          · refine .inr (h.covers r hr fun hm => ?_)
            rcases List.mem_cons.1 hm with hm | hm
            · exact hrq hm
            · exact hn hm

end Analysis

/-! ## Faults of nodes -/

namespace Formula

variable {s : Scope}

/-- The faults of nodes, with their places. -/
def blames (s : Scope) (nodes : List (Formula × Place)) : List (Place × Fault) :=
  nodes.filterMap fun n => (n.1.blame? s n.2).map (n.2, ·)

theorem mem_blames {f : Formula} {p : Place} {r : Place × Fault} :
    r ∈ blames s (f.walked p) ↔ f.Blamed s p r := by
  simp only [blames, List.mem_filterMap, Option.map_eq_some_iff]
  constructor
  · rintro ⟨n, hn, g, hg, rfl⟩
    exact ⟨n.1, hn, hg⟩
  · rintro ⟨g, hg, hr⟩
    exact ⟨(g, r.1), hg, r.2, hr, rfl⟩

theorem nodup_blames {nodes : List (Formula × Place)} (h : (nodes.map Prod.snd).Nodup) :
    (blames s nodes).Nodup := by
  refine List.Pairwise.filterMap _ ?_ (List.pairwise_map.1 h)
  rintro n n' hne r hr r' hr' rfl
  obtain ⟨g, -, rfl⟩ := Option.map_eq_some_iff.1 hr
  obtain ⟨g', -, hg'⟩ := Option.map_eq_some_iff.1 hr'
  exact hne (congrArg Prod.fst hg').symm

theorem map_blames (nodes : List (Formula × Place)) :
    (blames s nodes).map Prod.snd = nodes.filterMap fun n => n.1.blame? s n.2 := by
  simp only [blames, List.map_filterMap, Option.map_map]
  refine List.filterMap_congr fun n _ => ?_
  exact congrFun Option.map_id _

/-- The faults that are reported at one place are one fault. -/
theorem Blamed.eq {f : Formula} {p : Place} {r r' : Place × Fault} (h : f.Blamed s p r) (h' : f.Blamed s p r')
    (hp : r.1 = r'.1) : r = r' := by
  obtain ⟨g, hg, hf⟩ := h
  obtain ⟨g', hg', hf'⟩ := h'
  rw [hp] at hg hf
  obtain rfl := (hasNode_of_walked hg).unique (hasNode_of_walked hg')
  exact Prod.ext hp (Option.some.inj (hf.symm.trans hf'))

end Formula

open Formula

/-- **An analysis has the fault of every node once**, and no other fault. -/
theorem faults_perm (s : Scope) (f : Formula) (origin : Place) :
    (analyze s f origin).faults.Perm ((f.walked origin).filterMap fun n => n.1.blame? s n.2) := by
  obtain ⟨firsts, he, h⟩ := Analysis.exists_firstReports [] (f.survey s origin).reports
  have hp : firsts.Perm (blames s (f.walked origin)) := by
    refine (List.perm_ext_iff_of_nodup h.nodup.of_map (nodup_blames (f.walked_nodup origin))).2 fun r => ?_
    rw [mem_blames]
    constructor
    · intro hr
      exact mem_reports_survey.1 (h.subset hr)
    · intro hr
      obtain ⟨r', hr', hq⟩ := List.mem_map.1 (h.covers r (mem_reports_survey.2 hr) List.not_mem_nil)
      obtain rfl := (mem_reports_survey.1 (h.subset hr')).eq hr hq
      exact hr'
  change (Analysis.firstReports [] (f.survey s origin).reports).Perm _
  rw [he, ← map_blames]
  exact hp.map Prod.snd

/-- Without a context only sequences without parts have a fault. -/
theorem Formula.blame?_of_none {s : Scope} (h : s.context = none) (f : Formula) (p : Place) :
    f.blame? s p = if f.isEmptySequence then some .emptySequence else none := by
  cases f with
  | name n => simp only [blame?, h, isEmptySequence]; rfl
  | member => simp only [blame?, h, isEmptySequence]; rfl
  | _ => rfl

theorem filterMap_blame?_of_none {s : Scope} (h : s.context = none) (nodes : List (Formula × Place)) :
    (nodes.filterMap fun n => n.1.blame? s n.2) =
      List.replicate (nodes.countP fun n => n.1.isEmptySequence) .emptySequence := by
  induction nodes with
  | nil => rfl
  | cons n rest ih =>
    rw [List.filterMap_cons, Formula.blame?_of_none h, ih, List.countP_cons]
    by_cases he : n.1.isEmptySequence
    · rw [if_pos he, if_pos he]
      rfl
    · rw [if_neg he, if_neg he]
      rfl

/-- **Every fault is reported once for its node, and nothing else is.** Without a context these are the faults of
sequences without parts alone, and the policy does not matter to the analysis. -/
theorem analyze_faults (c : Context) (policy : Option Policy) (f : Formula) (origin : Place) :
    (analyze ⟨some c, policy⟩ f origin).faults.Perm
        ((f.walked origin).filterMap fun n => n.1.blame? ⟨some c, policy⟩ n.2) ∧
      (analyze ⟨none, policy⟩ f origin).faults =
        List.replicate ((f.walked origin).countP fun n => n.1.isEmptySequence) .emptySequence ∧
      ∀ policy', analyzed ⟨none, policy'⟩ f origin = analyzed ⟨none, policy⟩ f origin := by
  refine ⟨faults_perm _ f origin, ?_, fun policy' => ?_⟩
  · have hp := faults_perm ⟨none, policy⟩ f origin
    rw [filterMap_blame?_of_none rfl] at hp
    exact List.perm_replicate.1 hp
  · refine analyzed_congr ⟨rfl, fun n _ v k hn => ?_⟩
    rw [attempt?_of_none rfl] at hn
    cases hn

/-- In `[y.a, y]` the first `y` is met twice, as a node and as what is read of, but its fault is reported once. -/
example : (analyze ⟨some (.empty (.root 0)), none⟩
    (.array [.member (.name "y") (.name "a") false, .name "y"]) (.root 1)).faults =
      [.notFound "y", .notFound "y"] := rfl

end GatedFormula
