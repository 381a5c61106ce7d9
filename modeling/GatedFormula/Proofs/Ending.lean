/-
  When activities end, and with what.
  - `Activity.ending` says it of an activity by its parts, without passing through any instant.
  - A pass at an instant does not change it (`ending_advance`), and neither does the wait for the next one
    (`ending_of_halted`); so a run ends as it says (`run_eq_ending`).
-/
import GatedFormula.Proofs.Timed

namespace GatedFormula.Activity

open Timed

mutual
/-- The result of an activity with its time, if it goes on from `now`. -/
def ending (now : Nat) : Activity → Timed (List Outcome)
  | .settled outs => ⟨now, .ok outs⟩
  | .failed f => ⟨now, .error f⟩
  | .telling _ rest => ending now rest
  | .waiting due rest => ending (max now due) rest
  | .sequel first next => (ending now first).after fun time outs => ending time (next time outs)
  | .joined joint members => (join joint now (endings now members)).map List.flatten

/-- The results of several. -/
def endings (now : Nat) : List Activity → List (Timed (List Outcome))
  | [] => []
  | m :: rest => ending now m :: endings now rest
end

theorem endings_eq_map (now : Nat) (members : List Activity) :
    endings now members = members.map (ending now) := by
  induction members with
  | nil => rfl
  | cons m rest ih => rw [endings, ih, List.map_cons]

theorem mem_endings {now : Nat} {members : List Activity} {x : Timed (List Outcome)} :
    x ∈ endings now members ↔ ∃ m ∈ members, ending now m = x := by
  rw [endings_eq_map, List.mem_map]

mutual
/-- Nothing ends before it goes on. -/
theorem le_ending (now : Nat) : (a : Activity) → now ≤ (ending now a).time
  | .settled _ | .failed _ => Nat.le_refl _
  | .telling _ rest => le_ending now rest
  | .waiting due rest => Nat.le_trans (Nat.le_max_left ..) (le_ending (max now due) rest)
  | .sequel first next => by
    have hf := le_ending now first
    rw [ending, Timed.after]
    cases (ending now first).result with
    | error f => exact hf
    | ok outs => exact Nat.le_trans hf (le_ending _ (next (ending now first).time outs))
  | .joined joint members => le_join joint (le_endings now members)

theorem le_endings (now : Nat) : (members : List Activity) → ∀ x ∈ endings now members, now ≤ x.time
  | [], _, h => by cases h
  | m :: rest, x, h => by
    rcases List.mem_cons.1 h with rfl | h
    · exact le_ending now m
    · exact le_endings now rest x h
end

/-! ## Members with results -/

theorem results_of_outcomes (now : Nat) {members : List Activity} {outs : List Outcome}
    (h : outcomes? members = some outs) :
    ∃ oss : List (List Outcome), (endings now members).map Timed.result = oss.map .ok ∧
      (endings now members).map Timed.time = members.map (fun _ => now) ∧ oss.flatten = outs := by
  induction members generalizing outs with
  | nil =>
    obtain rfl := Option.some.inj h
    exact ⟨[], rfl, rfl, rfl⟩
  | cons m rest ih =>
    cases m with
    | settled os =>
      simp only [outcomes?, Option.map_eq_some_iff] at h
      obtain ⟨os', h, rfl⟩ := h
      obtain ⟨oss, hr, ht, rfl⟩ := ih h
      refine ⟨os :: oss, ?_, ?_, rfl⟩
      · rw [endings, List.map_cons, hr]
        rfl
      · rw [endings, List.map_cons, ht]
        rfl
    | _ => simp [outcomes?] at h

/-- Members that all have their outcomes have them together now. -/
theorem ending_of_outcomes {now : Nat} {joint : Joint} {members : List Activity} {outs : List Outcome}
    (h : outcomes? members = some outs) : ending now (.joined joint members) = ⟨now, .ok outs⟩ := by
  obtain ⟨oss, hr, ht, rfl⟩ := results_of_outcomes now h
  have hmax : (members.map fun _ => now).foldr max now = now := by
    clear h hr ht
    induction members with
    | nil => rfl
    | cons m rest ih => rw [List.map_cons, List.foldr_cons, ih, Nat.max_self]
  rw [ending, join_of_ok hr, ht, hmax]
  rfl

/-! ## Waiting for the next instant -/

theorem exists_nextDueAll_of_rest {m : Activity} {rest : List Activity} {due : Nat}
    (h : nextDueAll? rest = some due) : ∃ due', nextDueAll? (m :: rest) = some due' ∧ due' ≤ due := by
  rw [nextDueAll?, h]
  cases m.nextDue? with
  | none => exact ⟨due, rfl, Nat.le_refl _⟩
  | some u => exact ⟨min u due, rfl, Nat.min_le_right ..⟩

theorem exists_nextDueAll {members : List Activity} {m : Activity} {due : Nat} (hm : m ∈ members)
    (hd : m.nextDue? = some due) : ∃ due', nextDueAll? members = some due' ∧ due' ≤ due := by
  induction members with
  | nil => cases hm
  | cons m' rest ih =>
    rcases List.mem_cons.1 hm with rfl | hm
    · rw [nextDueAll?, hd]
      cases nextDueAll? rest with
      | none => exact ⟨due, rfl, Nat.le_refl _⟩
      | some u => exact ⟨min due u, rfl, Nat.min_le_left ..⟩
    · obtain ⟨u, hu, hle⟩ := ih hm
      obtain ⟨v, hv, hle'⟩ := exists_nextDueAll_of_rest (m := m') hu
      exact ⟨v, hv, Nat.le_trans hle' hle⟩

theorem exists_outcomes {members : List Activity} (h : ∀ m ∈ members, m.isSettled) :
    ∃ outs, outcomes? members = some outs := by
  cases ho : outcomes? members with
  | some outs => exact ⟨outs, rfl⟩
  | none =>
    obtain ⟨m, hm, hs⟩ := outcomes?_eq_none ho
    cases (h m hm).symm.trans hs

theorem result?_of_error {now : Nat} {m : Activity} {f : Fault} (hf : m.fault? = none)
    (he : (ending now m).result = .error f) : m.result? = none := by
  rw [result?_eq_none]
  refine ⟨?_, hf⟩
  cases m with
  | settled => cases he
  | _ => rfl

/-- Eager members without a failure fail no sooner than the unfinished ones among them. -/
theorem le_of_eager {now t : Nat} {members : List Activity} (hc : commonFault? .eager members = none)
    (h : ∀ m ∈ members, m.result? = none → t ≤ (ending now m).time) :
    ∀ x ∈ endings now members, ∀ f, x.result = .error f → t ≤ x.time := by
  intro x hx f hf
  obtain ⟨m, hm, rfl⟩ := mem_endings.1 hx
  have hm' : m.fault? = none := List.findSome?_eq_none_iff.1 hc m hm
  exact h m hm (result?_of_error hm' hf)

/-- Members without a result together have one no sooner than the unfinished ones among them. -/
theorem le_join_of_unfinished {now t : Nat} {joint : Joint} {members : List Activity}
    (hc : commonFault? joint members = none) (ho : outcomes? members = none)
    (h : ∀ m ∈ members, m.result? = none → t ≤ (ending now m).time) :
    t ≤ (join joint now (endings now members)).time := by
  cases joint with
  | eager =>
    obtain ⟨m, hm, hr⟩ := exists_unfinished hc ho
    exact le_joinEager (le_of_eager hc h) (.inr ⟨_, mem_endings.2 ⟨m, hm, rfl⟩, h m hm hr⟩)
  | inOrder =>
    rw [commonFault?] at hc
    cases hf : members.find? fun m => !m.isSettled with
    | none =>
      have hs : ∀ m ∈ members, m.isSettled := by simpa using hf
      obtain ⟨outs, hs⟩ := exists_outcomes hs
      cases ho.symm.trans hs
    | some m =>
      rw [hf, Option.bind_some] at hc
      obtain ⟨hm, before, rest, rfl, hb⟩ := List.find?_eq_some_iff_append.1 hf
      have hb' : ∀ m ∈ before, m.isSettled := by simpa using hb
      obtain ⟨outs, hs⟩ := exists_outcomes hb'
      obtain ⟨oss, hr, -, -⟩ := results_of_outcomes now hs
      have hm' : m.result? = none := result?_eq_none.2 ⟨by simpa using hm, hc⟩
      rw [endings_eq_map] at hr ⊢
      rw [List.map_append, List.map_cons]
      exact le_joinInOrder hr (h m (List.mem_append_right _ List.mem_cons_self) hm')

mutual
/-- What is halted and unfinished ends no sooner than when it can next go on. -/
theorem le_ending_of_halted {now t : Nat} : (a : Activity) → Halted now a → a.result? = none →
    (∀ due, a.nextDue? = some due → t ≤ due) → t ≤ (ending now a).time
  | .settled _, _, h, _ | .failed _, _, h, _ => by simp [result?] at h
  | .telling .., h, _, _ => by simp [Halted] at h
  | .waiting due rest, _, _, hd =>
    Nat.le_trans (Nat.le_trans (hd due rfl) (Nat.le_max_right ..)) (le_ending (max now due) rest)
  | .sequel first next, h, _, hd => by
    have hf := le_ending_of_halted first h.1 h.2 hd
    rw [ending, Timed.after]
    cases (ending now first).result with
    | error f => exact hf
    | ok outs => exact Nat.le_trans hf (le_ending _ (next (ending now first).time outs))
  | .joined joint members, h, _, hd =>
    le_join_of_unfinished h.2.1 h.2.2 (le_endings_of_halted members h.1 hd)

/-- So it is with each of several. -/
theorem le_endings_of_halted {now t : Nat} : (members : List Activity) → HaltedAll now members →
    (∀ due, nextDueAll? members = some due → t ≤ due) →
      ∀ m ∈ members, m.result? = none → t ≤ (ending now m).time
  | [], _, _, _, h, _ => by cases h
  | m :: rest, h, hd, m', hm, hr => by
    have hd' : ∀ u ∈ m :: rest, ∀ due, u.nextDue? = some due → t ≤ due := by
      intro u hu due hdue
      obtain ⟨v, hv, hle⟩ := exists_nextDueAll hu hdue
      exact Nat.le_trans (hd v hv) hle
    rcases List.mem_cons.1 hm with he | hm
    · obtain rfl := he.symm
      exact le_ending_of_halted m h.1 hr (hd' m List.mem_cons_self)
    · refine le_endings_of_halted rest h.2 (fun due hdue => ?_) m' hm hr
      obtain ⟨u, hu, hle⟩ := exists_nextDueAll_of_rest (m := m) hdue
      exact Nat.le_trans (hd u hu) hle
end

mutual
/-- What is halted may be taken up again later, as long as nothing in it is due before: what is there is held
back until then, all else ends as before. -/
theorem ending_of_halted {now t : Nat} (ht : now ≤ t) : (a : Activity) → Halted now a →
    (∀ due, a.nextDue? = some due → t ≤ due) → ending t a = (ending now a).notBefore t
  | .settled _, _, _ | .failed _, _, _ => by simp [ending, notBefore, Nat.max_eq_left ht]
  | .telling .., h, _ => by simp [Halted] at h
  | .waiting due rest, h, hd => by
    have hle : t ≤ due := hd due rfl
    have hend := le_ending (max t due) rest
    rw [ending, ending, Nat.max_eq_right (Nat.le_trans ht hle), notBefore_of_le]
    · rw [Nat.max_eq_right hle]
    · rw [Nat.max_eq_right hle] at hend
      exact Nat.le_trans hle hend
  | .sequel first next, h, hd => by
    have hf := ending_of_halted ht first h.1 hd
    rw [notBefore_of_le (le_ending_of_halted first h.1 h.2 hd)] at hf
    rw [notBefore_of_le (le_ending_of_halted (.sequel first next) h rfl hd), ending, hf, ending]
  | .joined joint members, h, hd => by
    have hs := endings_of_halted ht members h.1 hd
    rw [ending, ending, hs, ← map_notBefore]
    congr 1
    cases joint with
    | eager =>
      exact joinEager_notBefore ht (le_of_eager h.2.1 (le_endings_of_halted members h.1 hd))
    | inOrder => exact joinInOrder_notBefore ht _

/-- So may each of several. -/
theorem endings_of_halted {now t : Nat} (ht : now ≤ t) : (members : List Activity) →
    HaltedAll now members → (∀ due, nextDueAll? members = some due → t ≤ due) →
      endings t members = (endings now members).map (notBefore t)
  | [], _, _ => rfl
  | m :: rest, h, hd => by
    rw [endings, endings, List.map_cons]
    congr 1
    · refine ending_of_halted ht m h.1 fun due hdue => ?_
      obtain ⟨u, hu, hle⟩ := exists_nextDueAll (List.mem_cons_self (l := rest)) hdue
      exact Nat.le_trans (hd u hu) hle
    · refine endings_of_halted ht rest h.2 fun due hdue => ?_
      obtain ⟨u, hu, hle⟩ := exists_nextDueAll_of_rest (m := m) hdue
      exact Nat.le_trans (hd u hu) hle
end

/-- **The wait for the next instant changes no ending.** -/
theorem ending_of_due {now due : Nat} {a : Activity} (h : Halted now a) (hr : a.result? = none)
    (hd : a.nextDue? = some due) : ending due a = ending now a := by
  obtain ⟨due', hd', hlt⟩ := exists_due a h hr
  obtain rfl := Option.some.inj (hd.symm.trans hd')
  have hle : ∀ u, a.nextDue? = some u → due ≤ u := by
    intro u hu
    rw [hd, Option.some.injEq] at hu
    exact Nat.le_of_eq hu
  rw [ending_of_halted (Nat.le_of_lt hlt) a h hle, notBefore_of_le (le_ending_of_halted a h hr hle)]

/-- What is halted and unfinished ends later. -/
theorem lt_ending {now : Nat} {a : Activity} (h : Halted now a) (hr : a.result? = none) :
    now < (ending now a).time := by
  obtain ⟨due, hd, hlt⟩ := exists_due a h hr
  refine le_ending_of_halted (t := now + 1) a h hr fun u hu => ?_
  rw [hd, Option.some.injEq] at hu
  omega

/-! ## Passes -/

theorem ending_of_fault (now : Nat) {a : Activity} {f : Fault} (h : a.fault? = some f) :
    ending now a = ⟨now, .error f⟩ := by
  cases a <;> simp [fault?] at h
  rw [ending, h]

theorem ending_of_result (now : Nat) {a : Activity} {r : Except Fault (List Outcome)}
    (h : a.result? = some r) : ending now a = ⟨now, r⟩ := by
  cases a <;> simp [result?] at h <;> rw [ending, h]

/-- A failure that eager members have after a pass is theirs at once. -/
theorem joinEager_of_advanceAll {now : Nat} {f : Fault} {members : List Activity} {clear : Bool}
    (h : commonFault? .eager (advanceAll now .eager clear members).2 = some f) :
    joinEager now (endings now (advanceAll now .eager clear members).2) = ⟨now, .error f⟩ := by
  induction members generalizing clear with
  | nil => simp [advanceAll, commonFault?] at h
  | cons m rest ih =>
    simp only [advanceAll, beq_self_eq_true, Bool.true_or, Bool.and_true] at h ⊢
    cases hf : (advance now m).2.fault? with
    | some g =>
      -- the pass ends at `m`: the members after it cannot fail sooner
      simp only [hf, Option.isSome_some, if_true, commonFault?, List.findSome?_cons,
        Option.some.injEq] at h ⊢
      rw [endings, ending_of_fault now hf, joinEager, pair_of_left (f := g) rfl, h]
      · rfl
      · intro _ _
        exact le_join .eager (le_endings now rest)
    | none =>
      simp only [hf, Option.isSome_none, Bool.false_eq_true, if_false, commonFault?,
        List.findSome?_cons] at h ⊢
      have hrest := ih h
      rw [endings, joinEager, hrest, pair_of_right (g := f) rfl]
      · rfl
      · intro g hg
        exact lt_ending (halted_advance now m) (result?_of_error hf hg)

/-- So is one that members in order have. -/
theorem joinInOrder_of_advanceAll {now : Nat} {f : Fault} {members : List Activity}
    (h : commonFault? .inOrder (advanceAll now .inOrder true members).2 = some f) :
    joinInOrder now (endings now (advanceAll now .inOrder true members).2) = ⟨now, .error f⟩ := by
  induction members with
  | nil => simp [advanceAll, commonFault?] at h
  | cons m rest ih =>
    simp only [advanceAll, Bool.or_true, Bool.and_true, Bool.true_and] at h ⊢
    cases hm : (advance now m).2 with
    | failed g =>
      simp only [hm, fault?, Option.isSome_some, if_true, commonFault?, isSettled, Bool.not_false,
        List.find?_cons_of_pos, Option.bind_some, Option.some.injEq] at h ⊢
      rw [endings, joinInOrder, h]
      rfl
    | settled outs =>
      simp only [hm, fault?, Option.isSome_none, Bool.false_eq_true, if_false, commonFault?, isSettled,
        List.find?_cons, Bool.not_true] at h ⊢
      rw [endings, joinInOrder, ih h]
      simp only [ending, Timed.after, Except.map, Nat.max_self]
    | _ => simp [hm, fault?, commonFault?, isSettled] at h

mutual
/-- **A pass changes no ending.** -/
theorem ending_advance (now : Nat) : (a : Activity) → ending now (advance now a).2 = ending now a
  | .settled _ | .failed _ => rfl
  | .telling _ rest => ending_advance now rest
  | .waiting due rest => by
    simp only [advance]
    split
    · rename_i hle
      rw [ending, Nat.max_eq_left hle]
      exact ending_advance now rest
    · rfl
  | .sequel first next => by
    have ih := ending_advance now first
    simp only [advance]
    split
    · rename_i events outs heq
      rw [heq] at ih
      rw [ending_advance now (next now outs), ending, ← ih]
      rfl
    · rename_i events f heq
      rw [heq] at ih
      rw [ending, ending, ← ih]
      rfl
    · rename_i events first' hs hf heq
      rw [heq] at ih
      rw [ending, ending, ← ih]
  | .joined joint members => by
    have ih := endings_advanceAll now joint members true
    simp only [advance, rejoined]
    split
    · rename_i f hc
      have hj : join joint now (endings now members) = ⟨now, .error f⟩ := by
        rw [← ih]
        cases joint with
        | eager => exact joinEager_of_advanceAll hc
        | inOrder => exact joinInOrder_of_advanceAll hc
      rw [ending, ending, hj]
      rfl
    · split
      · rename_i hc outs ho
        have hj : ending now (.joined joint (advanceAll now joint true members).2) = ⟨now, .ok outs⟩ :=
          ending_of_outcomes ho
        rw [ending, ih] at hj
        rw [ending, ending, hj]
      · rw [ending, ending, ih]

/-- Nor does a pass over members. -/
theorem endings_advanceAll (now : Nat) (joint : Joint) : (members : List Activity) → (clear : Bool) →
    endings now (advanceAll now joint clear members).2 = endings now members
  | [], _ => rfl
  | m :: rest, clear => by
    have ih := ending_advance now m
    simp only [advanceAll]
    split
    · rw [endings, endings, ih]
    · rw [endings, endings, ih, endings_advanceAll now joint rest]
end

/-- **A run ends as its activity says.** -/
theorem run_eq_ending {waits now : Nat} {a : Activity} {e : Timed (List Outcome)}
    (h : (run waits now a).2 = some e) : e = ending now a := by
  have hdone : ∀ r, (advance now a).2.result? = some r → ending now a = ⟨now, r⟩ := by
    intro r hr
    rw [← ending_advance]
    exact ending_of_result now hr
  induction waits generalizing now a with
  | zero =>
    simp only [run, Option.map_eq_some_iff] at h
    obtain ⟨r, hr, rfl⟩ := h
    exact (hdone r hr).symm
  | succ waits ih =>
    simp only [run] at h
    split at h
    · rename_i due hr hd
      have hnext := ih h fun r hr' => by
        rw [← ending_advance]
        exact ending_of_result due hr'
      rw [hnext, ending_of_due (halted_advance now a) hr hd, ending_advance]
    · obtain ⟨r, hr, rfl⟩ := Option.map_eq_some_iff.1 h
      exact (hdone r hr).symm

end GatedFormula.Activity
