/-
  An analysis raises no false alarm.
  - `Formula.Leaves` says which part of a node its evaluation leaves out, and `Formula.Skips` which parts an
    evaluation leaves out at the nodes that it visits.
  - On the way to a success every node is visited or lies in a part that is skipped (`visits_or_skips`).
  - A node that succeeds has no fault (`blame?_of_ok`), so the faults that an analysis reports belong to nodes in
    skipped parts (`faults_skipped`).
-/
import GatedFormula.Proofs.Reports
import GatedFormula.Proofs.Visits

namespace GatedFormula

open Static

variable {s : Setting}

namespace Formula

/-- The evaluation of the node at a place leaves out a part, by its child number: the branch that its test does
not choose, or a right operand that it does not need. -/
inductive Leaves (s : Setting) : Formula → Place → Formula → Nat → Prop
  | consequent {t c a : Formula} {p : Place} {o : Outcome} (ht : (t.inTurn s (p.child 0)).result = .ok o)
      (h : o.value.isTruthy = false) : Leaves s (.conditional t c a) p c 1
  | alternate {t c a : Formula} {p : Place} {o : Outcome} (ht : (t.inTurn s (p.child 0)).result = .ok o)
      (h : o.value.isTruthy = true) : Leaves s (.conditional t c a) p a 2
  | right {op : String} {lo : LogicalOperator} {l r : Formula} {p : Place} {o : Outcome}
      (hl : (l.inTurn s (p.child 0)).result = .ok o) (ho : LogicalOperator.ofSymbol? op = some lo)
      (h : lo.needsRight o.value.isTruthy = false) : Leaves s (.logical op l r) p r 1

/-- The evaluation of a formula skips the formula `g` at the place `q`: it visits a node that leaves it out. -/
def Skips (s : Setting) (f : Formula) (origin : Place) (g : Formula) (q : Place) : Prop :=
  ∃ n r i, f.Visits s origin n r ∧ n.Leaves s r g i ∧ q = r.child i

theorem Skips.of_started {f g h : Formula} {p q : Place} {i : Nat} (hg : (g, i) ∈ f.started s p)
    (hs : g.Skips s (p.child i) h q) : f.Skips s p h q := by
  obtain ⟨n, r, j, hv, hl, rfl⟩ := hs
  exact ⟨n, r, j, .part hg hv, hl, rfl⟩

theorem mem_startedInTurn {fs : List Formula} {p : Place} {i j calls : Nat} {g : Formula} {o : Outcome}
    (h : (inTurnLast s fs p i calls).result = .ok o) (hg : fs[j]? = some g) :
    (g, i + j) ∈ startedInTurn s fs p i := by
  induction fs generalizing i j calls with
  | nil => cases hg
  | cons f rest ih =>
    rw [startedInTurn]
    cases j with
    | zero =>
      obtain rfl := Option.some.inj hg
      exact List.mem_cons_self
    | succ j =>
      cases rest with
      | nil => cases hg
      | cons f' rest =>
        rw [inTurnLast_cons] at h
        obtain ⟨o', hf, hr⟩ := Traced.ok_of_bind h
        have hm := ih hr hg
        rw [Nat.succ_add_eq_add_succ] at hm
        rw [hf]
        exact List.mem_cons_of_mem _ hm

/-- **A success starts every part of a node or leaves it out.** -/
theorem started_or_leaves (f : Formula) {p : Place} {o : Outcome} {i : Nat} {g : Formula}
    (h : (f.inTurn s p).result = .ok o) (hg : f.parts[i]? = some g) :
    (g, i) ∈ f.started s p ∨ f.Leaves s p g i := by
  cases succeeds h with
  | sequence h =>
    have hm := mem_startedInTurn h hg
    rw [Nat.zero_add] at hm
    exact .inl hm
  | consequent ht hx _ =>
    rw [started_consequent ht hx]
    obtain _ | _ | _ | i := i
    · obtain rfl := Option.some.inj hg
      exact .inl List.mem_cons_self
    · obtain rfl := Option.some.inj hg
      exact .inl (List.mem_cons_of_mem _ (List.mem_singleton_self _))
    · obtain rfl := Option.some.inj hg
      exact .inr (.alternate ht hx)
    · cases hg
  | alternate ht hx _ =>
    rw [started_alternate ht hx]
    obtain _ | _ | _ | i := i
    · obtain rfl := Option.some.inj hg
      exact .inl List.mem_cons_self
    · obtain rfl := Option.some.inj hg
      exact .inr (.consequent ht (Bool.eq_false_iff.2 hx))
    · obtain rfl := Option.some.inj hg
      exact .inl (List.mem_cons_of_mem _ (List.mem_singleton_self _))
    · cases hg
  | @right _ _ l r _ _ _ hl ho hn _ =>
    rw [started_right hl ho hn]
    exact .inl ((List.mem_zipIdx_iff_getElem? (l := [l, r])).2 hg)
  | left hl ho hn =>
    rw [started_left hl ho hn]
    obtain _ | _ | i := i
    · obtain rfl := Option.some.inj hg
      exact .inl List.mem_cons_self
    · obtain rfl := Option.some.inj hg
      exact .inr (.right hl ho (Bool.eq_false_iff.2 hn))
    · cases hg
  | _ => exact .inl (List.mem_zipIdx_iff_getElem?.2 hg)

/-- **On the way to a success every node is visited or lies in a part that is skipped.** -/
theorem visits_or_skips (f : Formula) : ∀ {p : Place} {o : Outcome} {n : Formula × Place},
    (f.inTurn s p).result = .ok o → n ∈ f.walked p →
      f.Visits s p n.1 n.2 ∨ ∃ g q, f.Skips s p g q ∧ n ∈ g.walked q := by
  induction f using induction_parts with
  | h f ih =>
    intro p o n h hn
    rcases mem_walked.1 hn with rfl | ⟨i, g, hg, hn⟩
    · exact .inl (.self f p)
    · rcases started_or_leaves f h hg with hs | hl
      · obtain ⟨o', h'⟩ := ok_of_started hs h
        rcases ih g (List.mem_of_getElem? hg) h' hn with hv | ⟨g', q, hs', hn'⟩
        · exact .inl (.part hs hv)
        · exact .inr ⟨g', q, .of_started hs hs', hn'⟩
      · exact .inr ⟨g, p.child i, ⟨f, p, i, .self f p, hl, rfl⟩, hn⟩

/-! ## Nodes that succeed -/

/-- Nothing can be read of a member whose key resolves to a boolean. -/
theorem key?_of_boolean {property : Formula} {computed : Bool} {p q : Place} {b : Bool} {key : Outcome}
    (hs : (stepOf computed property (resolve s.scope property p)).result = .boolean b)
    (hk : (keyInTurn s computed property q).result = .ok key) : key.value.key? = none := by
  obtain ⟨o, ho, -, hv⟩ := keyInTurn_of_stepOf (fun _ => resolve_foretells s.fits_scope property p q)
    (by rw [hs]; rfl)
  rw [ho] at hk
  obtain rfl := Except.ok.inj hk
  rw [hv, hs]
  rfl

/-- **What the node of a member attempts to read is what its evaluation reads.** -/
theorem read_of_attempt? {object property : Formula} {computed : Bool} {p q : Place} {v : Value} {k : Key}
    {a key : Outcome} (h : (member object property computed).attempt? s.scope p = some (v, k))
    (ha : (object.inTurn s (q.child 0)).result = .ok a)
    (hk : (keyInTurn s computed property (q.child 1)).result = .ok key) :
    s.read a.value key.value = readMember s.policy v k := by
  obtain ⟨hstep, hobject, hd⟩ := target?_eq_some_iff.1 h
  obtain ⟨o, ho, -, hkey⟩ := keyInTurn_of_stepOf
    (fun _ => resolve_foretells s.fits_scope property (p.child 1) (q.child 1)) (Segment.isUnknown_of_key? hstep)
  rw [ho] at hk
  obtain rfl := Except.ok.inj hk
  rcases objectOf_cases object (resolve s.scope object (p.child 0)) with hn | ⟨hr, hkind⟩
  · cases hn.symm.trans hobject
  · have hw := (resolve_foretells s.fits_scope object (p.child 0) (q.child 0)).twin (hr.symm.trans hobject) ha
    obtain rfl := hw.eq_of_kind hkind
    rw [Setting.read, if_neg (Bool.eq_false_iff.1 hd), hkey, hstep]

/-- **A node that succeeds has no fault.** -/
theorem blame?_of_ok {f : Formula} {p q : Place} {o : Outcome} (h : (f.inTurn s q).result = .ok o) :
    f.blame? s.scope p = none := by
  cases succeeds h with
  | @name n _ v hn =>
    have hc : s.context.contains n = (s.context.get? n).isSome := rfl
    rw [hn] at hc
    simp [blame?, Setting.scope, hc]
  | @member object property computed _ a key v ha hk hr =>
    change memberFault? s.policy (stepOf computed property (resolve s.scope property (p.child 1))).result
      (objectOf object (resolve s.scope object (p.child 0))).result = none
    unfold memberFault?
    split
    · rename_i hs
      obtain ⟨k, hkey, -⟩ := Setting.read_eq_ok hr
      cases hkey.symm.trans (key?_of_boolean hs hk)
    · change ((member object property computed).attempt? s.scope p).bind _ = none
      cases ht : (member object property computed).attempt? s.scope p with
      | none => rfl
      | some t =>
        obtain ⟨v, k⟩ := t
        rw [read_of_attempt? ht ha hk] at hr
        exact if_pos (isPermitted_of_readMember hr)
  | @sequence body _ _ h =>
    cases body with
    | nil => cases h
    | cons => rfl
  | _ => rfl

end Formula

/-- **An analysis raises no false alarm.** If a formula has a value, every fault that its analysis reports belongs
to a node in a part that the evaluation skipped. Without conditions and logical operators there is none. -/
theorem faults_skipped {s : Setting} {f : Formula} {origin : Place} {o : Outcome}
    (h : (evaluate s f origin).result = .ok o) :
    (∃ reports, (analyze s.scope f origin).faults = reports.map Prod.snd ∧
      reports ⊆ (f.survey s.scope origin).reports ∧
        ∀ r ∈ reports, ∃ g q, f.Skips s origin g q ∧ g.Blamed s.scope q r) ∧
    ((∀ n ∈ f.walked origin, n.1.kind ≠ .conditional ∧ n.1.kind ≠ .logical) →
      (analyze s.scope f origin).isClean = true) := by
  have ho := (evaluate_agrees s f origin).ok_iff.2 h
  obtain ⟨reports, he, hf⟩ := Analysis.exists_firstReports [] (f.survey s.scope origin).reports
  have hskip : ∀ r ∈ reports, ∃ g q, f.Skips s origin g q ∧ g.Blamed s.scope q r := by
    intro r hr
    obtain ⟨g, hg, hb⟩ := Formula.mem_reports_survey.1 (hf.subset hr)
    rcases f.visits_or_skips ho hg with hv | ⟨g', q, hs, hn⟩
    · obtain ⟨o', h'⟩ := Formula.ok_of_visits hv ho
      cases hb.symm.trans (Formula.blame?_of_ok h')
    · exact ⟨g', q, hs, g, hn, hb⟩
  refine ⟨⟨reports, he, hf.subset, hskip⟩, fun hk => ?_⟩
  change (Analysis.firstReports [] (f.survey s.scope origin).reports).isEmpty = true
  cases reports with
  | nil => rw [he]; rfl
  | cons r rest =>
    obtain ⟨g, q, ⟨n, p, i, hv, hl, -⟩, -⟩ := hskip r List.mem_cons_self
    obtain ⟨hc, hlog⟩ := hk _ (Formula.walked_of_visits hv)
    cases hl <;> contradiction

/-- In `box.label || lid[true]` nothing is wrong with what is evaluated. -/
theorem faults_skipped_lid :
    let f : Formula := .logical "||" (.member (.name "box") (.name "label") false)
      (.member (.name "lid") (.literal (.boolean true) none) true)
    let g : Formula := .array [.member (.name "box") (.name "label") false, .literal (.text "y") none]
    let s := Setting.sample
    (∃ o, (evaluate s f (.root 3)).result = .ok o ∧ o.value = .text "x") ∧
      (analyze s.scope f (.root 3)).faults = [.badKey .boolean, .notFound "lid"] ∧
      (∃ reports, (analyze s.scope f (.root 3)).faults = reports.map Prod.snd ∧
        reports ⊆ (f.survey s.scope (.root 3)).reports ∧
          ∀ r ∈ reports, ∃ g q, f.Skips s (.root 3) g q ∧ g.Blamed s.scope q r) ∧
      (∃ o, (evaluate s g (.root 3)).result = .ok o) ∧ (analyze s.scope g (.root 3)).isClean = true := by
  intro f g s
  have hf : (evaluate s f (.root 3)).result = .ok _ := rfl
  have hg : (evaluate s g (.root 3)).result = .ok _ := rfl
  refine ⟨⟨_, hf, rfl⟩, rfl, (faults_skipped hf).1, ⟨_, hg⟩, (faults_skipped hg).2 ?_⟩
  simp [g, Formula.walked, Formula.walkedEach, Formula.kind]

end GatedFormula
