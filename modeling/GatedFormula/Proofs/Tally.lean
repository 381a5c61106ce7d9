/-
  How often an activity tells something.
  - `Activity.AtMost` bounds the number of events of some sort that an activity tells.
  - What a pass tells is one less to come (`atMost_advance`), so a run tells no more than the bound
    (`countP_run_le`).
  - `Formula.weight` adds up numbers given to the places of call nodes; it bounds what an evaluation tells of its
    calls (`atMost_launch`).
  Main statement: an evaluation calls a function at most once at each place (`nodup_sites`).
-/
import GatedFormula.Proofs.Launch
import GatedFormula.Proofs.Walk
import Mathlib

namespace GatedFormula

namespace Activity

variable {P : Event → Bool}

mutual
/-- An activity tells at most some number of events of a sort. -/
def AtMost (P : Event → Bool) : Activity → Nat → Prop
  | .settled _, _ | .failed _, _ => True
  | .telling e rest, n => ∃ m, [e].countP P + m ≤ n ∧ AtMost P rest m
  | .waiting _ rest, n => AtMost P rest n
  | .sequel first next, n =>
    ∃ k m, k + m ≤ n ∧ AtMost P first k ∧ ∀ now outs, AtMost P (next now outs) m
  | .joined _ members, n => AtMostAll P members n

/-- Several activities tell at most some number of events of a sort together. -/
def AtMostAll (P : Event → Bool) : List Activity → Nat → Prop
  | [], _ => True
  | a :: rest, n => ∃ k m, k + m ≤ n ∧ AtMost P a k ∧ AtMostAll P rest m
end

theorem AtMostAll.rejoined {members : List Activity} {n : Nat} (h : AtMostAll P members n) (joint : Joint) :
    AtMost P (rejoined joint members) n := by
  unfold Activity.rejoined
  split
  · simp [AtMost]
  · split
    · simp [AtMost]
    · exact h

/-! ## Passes and runs -/

mutual
/-- **What a pass tells is one less to come.** -/
theorem atMost_advance (now : Nat) : {a : Activity} → {n : Nat} → AtMost P a n →
    ∃ k, (advance now a).1.countP P + k ≤ n ∧ AtMost P (advance now a).2 k
  | .settled _, n, _ | .failed _, n, _ => ⟨n, by simp [advance], by simp [advance, AtMost]⟩
  | .telling e rest, n, h => by
    obtain ⟨m, hm, h⟩ := h
    obtain ⟨k, hk, h⟩ := atMost_advance now h
    refine ⟨k, ?_, h⟩
    simp only [advance]
    rw [← List.singleton_append, List.countP_append]
    omega
  | .waiting due rest, n, h => by
    simp only [advance]
    split
    · exact atMost_advance now h
    · exact ⟨n, by simp, h⟩
  | .sequel first next, n, h => by
    obtain ⟨k, m, hk, hf, hn⟩ := h
    obtain ⟨k', hk', hf'⟩ := atMost_advance now hf
    simp only [advance]
    split
    · rename_i events outs heq
      rw [heq] at hk'
      obtain ⟨m', hm', hn'⟩ := atMost_advance now (hn now outs)
      refine ⟨m', ?_, hn'⟩
      dsimp only at hk' ⊢
      rw [List.countP_append]
      omega
    · rename_i events f heq
      rw [heq] at hk'
      exact ⟨0, by omega, by simp [AtMost]⟩
    · rename_i heq
      rw [heq] at hk' hf'
      dsimp only at hk' ⊢
      exact ⟨k' + m, by omega, k', m, Nat.le_refl _, hf', hn⟩
  | .joined joint members, n, h => by
    obtain ⟨k, hk, h⟩ := atMost_advanceAll now joint true h
    exact ⟨k, hk, h.rejoined joint⟩

/-- So it is for members, wherever a failure ends the pass. -/
theorem atMost_advanceAll (now : Nat) (joint : Joint) (clear : Bool) : {members : List Activity} → {n : Nat} →
    AtMostAll P members n →
      ∃ k, (advanceAll now joint clear members).1.countP P + k ≤ n ∧
        AtMostAll P (advanceAll now joint clear members).2 k
  | [], n, _ => ⟨n, by simp [advanceAll], by simp [advanceAll, AtMostAll]⟩
  | m :: rest, n, h => by
    obtain ⟨k, j, hk, hm, hr⟩ := h
    obtain ⟨k', hk', hm'⟩ := atMost_advance now hm
    simp only [advanceAll]
    split
    · dsimp only
      exact ⟨k' + j, by omega, k', j, Nat.le_refl _, hm', hr⟩
    · obtain ⟨j', hj', hr'⟩ := atMost_advanceAll now joint (clear && (advance now m).2.isSettled) hr
      refine ⟨k' + j', ?_, k', j', Nat.le_refl _, hm', hr'⟩
      rw [List.countP_append]
      omega
end

/-- **A run tells no more than the bound.** -/
theorem countP_run_le {waits now n : Nat} {a : Activity} (h : AtMost P a n) :
    (run waits now a).1.countP P ≤ n := by
  induction waits generalizing now a n with
  | zero =>
    obtain ⟨k, hk, -⟩ := atMost_advance now h
    simp only [run]
    omega
  | succ waits ih =>
    obtain ⟨k, hk, h'⟩ := atMost_advance now h
    simp only [run]
    split
    · rename_i due hr hd
      have hrun : (run waits due (advance now a).2).1.countP P ≤ k := ih h'
      rw [List.countP_append]
      omega
    · dsimp only
      omega

/-! ## Activities put together -/

theorem atMost_ofResult (r : Except Fault Outcome) (n : Nat) : AtMost P (ofResult r) n := by
  cases r <;> simp [ofResult, AtMost]

theorem AtMost.after {first : Activity} {next : Outcome → Activity} {k m n : Nat} (hn : k + m ≤ n)
    (hf : AtMost P first k) (h : ∀ o, AtMost P (next o) m) : AtMost P (after first next) n :=
  ⟨k, m, hn, hf, fun _ _ => h _⟩

theorem AtMost.both {l r : Activity} {next : Outcome → Outcome → Activity} {k m n : Nat} (hn : k + m ≤ n)
    (hl : AtMost P l k) (hr : AtMost P r m) (h : ∀ x y, AtMost P (next x y) 0) : AtMost P (both l r next) n :=
  ⟨n, 0, by omega, ⟨k, m, hn, hl, m, 0, by omega, hr, trivial⟩, fun _ _ => h _ _⟩

/-- Of the events of a sort only calls happen, each weighing at least one at its place. -/
structure Weighs (P : Event → Bool) (w : Place → Nat) : Prop where
  denied : ∀ object key, P (.noted (denialEntry object key)) = false
  completed : ∀ f time, P (.completed f time) = false
  invoked : ∀ c, P (.invoked c) = true → 1 ≤ w c.site

variable {w : Place → Nat}

theorem atMost_calling (hw : Weighs P w) (s : Setting) (site : Place) (now : Nat) (parts : List Outcome) :
    AtMost P (calling s site now parts) (w site) := by
  unfold calling
  split
  · rename_i g receiver _
    have hr (rest : Activity) (h : AtMost P rest 0) : AtMost P (.telling
        (.invoked ⟨site, g, receiver, (parts.drop 1).map Outcome.value⟩) rest) (w site) := by
      refine ⟨0, ?_, h⟩
      rw [List.countP_singleton, Nat.add_zero]
      split
      · exact hw.invoked _ ‹_›
      · exact Nat.zero_le _
    have hc (time : Nat) : AtMost P (completed s g receiver ((parts.drop 1).map Outcome.value) site parts time) 0 :=
      ⟨0, by simp [hw.completed], atMost_ofResult _ _⟩
    refine hr _ ?_
    split
    · exact hc _
    · exact hc _
  · simp [AtMost]

theorem exists_of_denied? {s : Setting} {object key : Value} {entry : Entry}
    (h : s.denied? object key = some entry) : ∃ k, entry = denialEntry object k := by
  unfold Setting.denied? at h
  split at h
  · cases h
  · obtain ⟨k, -, hk⟩ := Option.bind_eq_some_iff.1 h
    split at hk
    · cases hk
    · exact ⟨k, (Option.some.inj hk).symm⟩

theorem atMost_reading (hw : Weighs P w) (s : Setting) (object key : Outcome) :
    AtMost P (reading s object key) 0 := by
  unfold reading
  split
  · simp [AtMost]
  · split
    · rename_i entry hd
      obtain ⟨k, rfl⟩ := exists_of_denied? hd
      exact ⟨0, by simp [hw.denied], by simp [AtMost]⟩
    · simp [AtMost]

end Activity

namespace Formula

open Activity

/-- The numbers given to the places of call nodes, added up over nodes. -/
def weightOf (w : Place → Nat) (nodes : List (Formula × Place)) : Nat :=
  (nodes.map fun n => if n.1.kind = .call then w n.2 else 0).sum

@[simp] theorem weightOf_nil (w : Place → Nat) : weightOf w [] = 0 := rfl

@[simp] theorem weightOf_cons (w : Place → Nat) (n : Formula × Place) (nodes : List (Formula × Place)) :
    weightOf w (n :: nodes) = (if n.1.kind = .call then w n.2 else 0) + weightOf w nodes := by
  simp [weightOf]

@[simp] theorem weightOf_append (w : Place → Nat) (nodes nodes' : List (Formula × Place)) :
    weightOf w (nodes ++ nodes') = weightOf w nodes + weightOf w nodes' := by
  simp [weightOf]

variable {P : Event → Bool} {w : Place → Nat}

mutual
/-- **Evaluating tells no more than the weight of the call nodes.** -/
theorem atMost_launch (hw : Weighs P w) (s : Setting) : (f : Formula) → (p : Place) →
    AtMost P (launch s f p) (weightOf w (f.walked p))
  | .array elements, p => by
    refine ⟨_, 0, ?_, atMostAll_launchAll hw s elements p 0, fun _ _ => trivial⟩
    simp [walked, kind]
  | .binary op l r, p => by
    refine .both ?_ (atMost_launch hw s l _) (atMost_launch hw s r _) fun _ _ => atMost_ofResult _ _
    simp [walked, kind]
  | .call callee arguments, p => by
    refine ⟨weightOf w (callee.walked (p.child 0)) + weightOf w (walkedEach arguments p 1), w p, ?_,
      ⟨_, _, Nat.le_refl _, atMost_launch hw s callee _, _, 0, Nat.le_refl _,
        atMostAll_launchAll hw s arguments p 1, trivial⟩, fun now parts => atMost_calling hw s p now parts⟩
    simp only [walked, weightOf_cons, weightOf_append, kind, if_true]
    omega
  | .sequence body, p => by
    have h := atMost_launchInTurn hw s body p 0 0
    simpa [walked, kind, launch] using h
  | .conditional t c a, p => by
    refine .after (m := weightOf w (c.walked (p.child 1)) + weightOf w (a.walked (p.child 2))) ?_
      (atMost_launch hw s t _) fun o => ?_
    · simp [walked, kind]
    · split
      · exact .after (m := 0) (by omega) (atMost_launch hw s c _) fun _ => trivial
      · exact .after (m := 0) (by omega) (atMost_launch hw s a _) fun _ => trivial
  | .name n, p => by
    simp only [launch]
    split <;> simp [AtMost]
  | .literal .., _ => trivial
  | .logical op l r, p => by
    refine .after (m := weightOf w (r.walked (p.child 1))) ?_ (atMost_launch hw s l _) fun o => ?_
    · simp [walked, kind]
    · split
      · simp [AtMost]
      · split
        · exact .after (m := 0) (by omega) (atMost_launch hw s r _) fun _ => trivial
        · simp [AtMost]
  | .member object property computed, p => by
    refine .both (k := weightOf w (object.walked (p.child 0)))
      (m := if computed then weightOf w (property.walked (p.child 1)) else 0) ?_
      (atMost_launch hw s object _) ?_ fun _ _ => atMost_reading hw _ _ _
    · cases computed <;> simp [walked, kind]
    · cases computed with
      | true => exact atMost_launch hw s property _
      | false =>
        cases property.name? <;> trivial
  | .self, _ => trivial
  | .unary op a before, p => by
    refine .after (m := 0) ?_ (atMost_launch hw s a _) fun _ => atMost_ofResult _ _
    simp [walked, kind]

theorem atMostAll_launchAll (hw : Weighs P w) (s : Setting) : (fs : List Formula) → (p : Place) → (i : Nat) →
    AtMostAll P (launchAll s fs p i) (weightOf w (walkedEach fs p i))
  | [], _, _ => trivial
  | f :: rest, p, i => by
    refine ⟨_, _, ?_, atMost_launch hw s f _, atMostAll_launchAll hw s rest p (i + 1)⟩
    simp [walkedEach]

theorem atMost_launchInTurn (hw : Weighs P w) (s : Setting) : (fs : List Formula) → (p : Place) →
    (i calls : Nat) → AtMost P (launchInTurn s fs p i calls) (weightOf w (walkedEach fs p i))
  | [], _, _, _ => by simp [launchInTurn, AtMost]
  | [f], p, i, calls => by
    refine .after (m := 0) ?_ (atMost_launch hw s f _) fun _ => trivial
    simp [walkedEach]
  | f :: g :: rest, p, i, calls => by
    refine .after (m := weightOf w (walkedEach (g :: rest) p (i + 1))) ?_ (atMost_launch hw s f _)
      fun _ => atMost_launchInTurn hw s (g :: rest) p (i + 1) _
    simp [walkedEach]
end

end Formula

/-! ## Evaluations -/

open Activity Formula

/-- Is it a call at the place? -/
def Event.isCallAt (q : Place) (e : Event) : Bool := e.call?.any fun c => c.site = q

/-- Is it the journal entry of a call? -/
def Entry.isCalling : Entry → Bool
  | .calling .. => true
  | _ => false

/-- Is the journal entry of a call noted without a call? -/
def Event.isStray : Event → Bool
  | .noted entry => entry.isCalling
  | _ => false

theorem weighs_isCallAt (q : Place) : Weighs (Event.isCallAt q) fun p => if p = q then 1 else 0 where
  denied _ _ := rfl
  completed _ _ := rfl
  invoked c h := by
    have hc : c.site = q := by simpa [Event.isCallAt, Event.call?] using h
    simp [hc]

theorem weighs_isStray : Weighs Event.isStray fun _ => 0 where
  denied _ _ := rfl
  completed _ _ := rfl
  invoked _ h := by cases h

theorem count_sites (q : Place) (events : List Event) :
    ((callsIn events).map Invocation.site).count q = events.countP (Event.isCallAt q) := by
  induction events with
  | nil => rfl
  | cons e rest ih =>
    rw [callsIn_cons, List.map_append, List.count_append, ih, List.countP_cons, Nat.add_comm]
    cases e <;> simp [Event.isCallAt, Event.call?, List.count_cons]

theorem weightOf_le_count (nodes : List (Formula × Place)) (q : Place) :
    weightOf (fun p => if p = q then 1 else 0) nodes ≤ (nodes.map Prod.snd).count q := by
  induction nodes with
  | nil => simp
  | cons n rest ih =>
    rw [weightOf_cons, List.map_cons, List.count_cons]
    by_cases hq : n.2 = q
    · have h1 : (if n.1.kind = .call then (if n.2 = q then 1 else 0) else 0) ≤ 1 := by split <;> simp
      simp only [hq, beq_self_eq_true, if_true] at h1 ⊢
      omega
    · simp [hq, ih]

/-- **An evaluation calls a function at most once at each place**, whether it succeeds or fails. -/
theorem nodup_sites (s : Setting) (f : Formula) (origin : Place) :
    ((evaluate s f origin).invocations.map Invocation.site).Nodup := by
  rw [List.nodup_iff_count_le_one]
  intro q
  obtain ⟨_, -, -, -, hi⟩ := exists_ending s f origin
  rw [hi, count_sites]
  calc ((f.launch s origin).run f.callCount 0).1.countP (Event.isCallAt q)
      ≤ weightOf (fun p => if p = q then 1 else 0) (f.walked origin) :=
        countP_run_le (f.atMost_launch (weighs_isCallAt q) s origin)
    _ ≤ ((f.walked origin).map Prod.snd).count q := weightOf_le_count _ q
    _ ≤ 1 := List.nodup_iff_count_le_one.1 (f.walked_nodup origin) q

theorem filter_entries (events : List Event) (h : ∀ e ∈ events, e.isStray = false) :
    (events.filterMap Event.entry?).filter Entry.isCalling = (callsIn events).map Invocation.entry := by
  induction events with
  | nil => rfl
  | cons e rest ih =>
    rw [List.forall_mem_cons] at h
    obtain ⟨he, hr⟩ := h
    rw [callsIn_cons, List.map_append, ← ih hr]
    cases e with
    | noted entry =>
      change entry.isCalling = false at he
      simp [Event.entry?, Event.call?, he]
    | invoked c => exact List.filter_cons_of_pos rfl
    | completed f time => rfl

theorem isCalling_closing (r : Except Fault Outcome) : (closing r).isCalling = false := by
  cases r <;> rfl

/-- **The journal has an entry for each call**, in their order, and no other entry of a call. -/
theorem filter_journal (s : Setting) (f : Formula) (origin : Place) :
    (evaluate s f origin).journal.filter Entry.isCalling =
      (evaluate s f origin).invocations.map Invocation.entry := by
  refine filter_entries _ fun e he => ?_
  have hrun : ((f.launch s origin).run f.callCount 0).1.countP Event.isStray = 0 := by
    refine Nat.le_zero.1 (Nat.le_trans (countP_run_le (f.atMost_launch weighs_isStray s origin)) ?_)
    simp [weightOf]
  simp only [evaluate, List.mem_append, List.mem_cons, List.not_mem_nil, or_false] at he
  rcases he with (rfl | he) | rfl
  · rfl
  · exact Bool.eq_false_iff.2 (List.countP_eq_zero.1 hrun e he)
  · exact isCalling_closing _

end GatedFormula
