/-
  Activities come to an end.
  - `Activity.Halted` says of an activity that a pass at an instant has left nothing to do at that instant.
  - `Activity.Within` bounds the jumps in time that an activity takes.
  Main statement: a run that may jump as often as the bound says has a result (`run_isSome`).
-/
import GatedFormula.Evaluation.Activity

namespace GatedFormula.Activity

/-! ## What a pass leaves -/

/-- The activities that a pass leaves of members, if it gets to the last one. -/
def passed (now : Nat) (members : List Activity) : List Activity := members.map fun m => (advance now m).2

theorem result?_eq_none {a : Activity} : a.result? = none ↔ a.isSettled = false ∧ a.fault? = none := by
  cases a <;> simp [result?, isSettled, fault?]

theorem outcomes?_eq_none {members : List Activity} (h : outcomes? members = none) :
    ∃ m ∈ members, m.isSettled = false := by
  induction members with
  | nil => simp [outcomes?] at h
  | cons m rest ih =>
    cases m with
    | settled outs =>
      simp only [outcomes?, Option.map_eq_none_iff] at h
      obtain ⟨m, hm, hs⟩ := ih h
      exact ⟨m, List.mem_cons_of_mem _ hm, hs⟩
    | _ => exact ⟨_, List.mem_cons_self, rfl⟩

/-- Members that do not fail eagerly are all passed, unless one fails before. -/
theorem advanceAll_inOrder_false (now : Nat) (members : List Activity) :
    (advanceAll now .inOrder false members).2 = passed now members := by
  induction members with
  | nil => rfl
  | cons m rest ih =>
    simp only [advanceAll, passed, List.map_cons]
    simpa [passed] using ih

theorem advanceAll_eager (now : Nat) (clear : Bool) (members : List Activity)
    (h : commonFault? .eager (advanceAll now .eager clear members).2 = none) :
    (advanceAll now .eager clear members).2 = passed now members := by
  induction members generalizing clear with
  | nil => rfl
  | cons m rest ih =>
    simp only [advanceAll, passed, List.map_cons] at h ⊢
    split at h
    · rename_i hf
      simp only [beq_self_eq_true, Bool.true_or, Bool.and_true] at hf
      obtain ⟨f, hf⟩ := Option.isSome_iff_exists.1 hf
      simp [commonFault?, hf] at h
    · rename_i hf
      rw [if_neg hf]
      simp only [beq_self_eq_true, Bool.true_or, Bool.and_true, Bool.not_eq_true,
        Option.isSome_eq_false_iff, Option.isNone_iff_eq_none] at hf
      simp only [commonFault?, List.findSome?_cons, hf] at h
      have := ih _ h
      simp only [passed] at this
      simp [this]

theorem advanceAll_inOrder (now : Nat) (members : List Activity)
    (h : commonFault? .inOrder (advanceAll now .inOrder true members).2 = none) :
    (advanceAll now .inOrder true members).2 = passed now members := by
  induction members with
  | nil => rfl
  | cons m rest ih =>
    simp only [advanceAll, passed, List.map_cons] at h ⊢
    split at h
    · rename_i hf
      simp only [Bool.or_true, Bool.and_true] at hf
      cases hm : (advance now m).2 <;> simp [hm, fault?, commonFault?, isSettled] at hf h
    · rename_i hf
      rw [if_neg hf]
      cases hs : (advance now m).2.isSettled with
      | false =>
        have := advanceAll_inOrder_false now rest
        simp only [passed] at this
        simp [this]
      | true =>
        simp only [hs, Bool.and_true, commonFault?, List.find?_cons, Bool.not_true] at h
        have := ih h
        simp only [passed] at this
        simp [this]

/-- A pass that meets no failure that counts gets to the last member. -/
theorem advanceAll_eq_passed {now : Nat} {joint : Joint} {members : List Activity}
    (h : commonFault? joint (advanceAll now joint true members).2 = none) :
    (advanceAll now joint true members).2 = passed now members := by
  cases joint with
  | eager => exact advanceAll_eager now true members h
  | inOrder => exact advanceAll_inOrder now members h

mutual
/-- Nothing more can be done at an instant. -/
def Halted (now : Nat) : Activity → Prop
  | .settled _ | .failed _ => True
  | .telling .. => False
  | .waiting due _ => now < due
  | .sequel first _ => Halted now first ∧ first.result? = none
  | .joined joint members =>
    HaltedAll now members ∧ commonFault? joint members = none ∧ outcomes? members = none

/-- Nothing more can be done for any of them. -/
def HaltedAll (now : Nat) : List Activity → Prop
  | [] => True
  | m :: rest => Halted now m ∧ HaltedAll now rest
end

mutual
/-- A pass does all that can be done at its instant. -/
theorem halted_advance (now : Nat) : (a : Activity) → Halted now (advance now a).2
  | .settled _ | .failed _ => by simp [advance, Halted]
  | .telling _ rest => by
    simp only [advance]
    exact halted_advance now rest
  | .waiting due rest => by
    simp only [advance]
    split
    · exact halted_advance now rest
    · simp only [Halted]
      omega
  | .sequel first next => by
    have ih := halted_advance now first
    simp only [advance]
    split
    · exact halted_advance now _
    · simp [Halted]
    · rename_i events a hs hf h
      rw [h] at ih
      refine ⟨ih, ?_⟩
      cases a with
      | settled outs => exact absurd rfl (hs outs)
      | failed f => exact absurd rfl (hf f)
      | _ => rfl
  | .joined joint members => by
    simp only [advance, rejoined]
    split
    · simp [Halted]
    · rename_i hc
      split
      · simp [Halted]
      · rename_i ho
        refine ⟨?_, hc, ho⟩
        rw [advanceAll_eq_passed hc]
        exact haltedAll_passed now members

/-- So does a pass over members. -/
theorem haltedAll_passed (now : Nat) : (members : List Activity) → HaltedAll now (passed now members)
  | [] => by simp [passed, HaltedAll]
  | m :: rest => ⟨halted_advance now m, haltedAll_passed now rest⟩
end

/-! ## The next instant -/

theorem exists_unfinished {joint : Joint} {members : List Activity} (hc : commonFault? joint members = none)
    (ho : outcomes? members = none) : ∃ m ∈ members, m.result? = none := by
  obtain ⟨m, hm, hs⟩ := outcomes?_eq_none ho
  cases joint with
  | eager =>
    simp only [commonFault?, List.findSome?_eq_none_iff] at hc
    exact ⟨m, hm, result?_eq_none.2 ⟨hs, hc m hm⟩⟩
  | inOrder =>
    simp only [commonFault?] at hc
    cases hf : members.find? fun m => !m.isSettled with
    | none =>
      rw [List.find?_eq_none] at hf
      simpa [hs] using hf m hm
    | some m' =>
      rw [hf, Option.bind_some] at hc
      have hs' := List.find?_some hf
      exact ⟨m', List.mem_of_find?_eq_some hf, result?_eq_none.2 ⟨by simpa using hs', hc⟩⟩

/-- What has a result waits for nothing. -/
theorem nextDue?_eq_none {a : Activity} (h : a.result? ≠ none) : a.nextDue? = none := by
  cases a <;> simp [result?] at h <;> rfl

/-- One of several that wait is unfinished. -/
theorem exists_unfinished_of_due {due : Nat} {members : List Activity} (h : nextDueAll? members = some due) :
    ∃ m ∈ members, m.result? = none := by
  induction members with
  | nil => simp [nextDueAll?] at h
  | cons m rest ih =>
    by_cases hm : m.result? = none
    · exact ⟨m, List.mem_cons_self, hm⟩
    · rw [nextDueAll?, nextDue?_eq_none hm] at h
      obtain ⟨u, hu, hr⟩ := ih h
      exact ⟨u, List.mem_cons_of_mem _ hu, hr⟩

mutual
/-- What is halted and unfinished waits for a later instant. -/
theorem exists_due {now : Nat} : (a : Activity) → Halted now a → a.result? = none →
    ∃ due, a.nextDue? = some due ∧ now < due
  | .settled _, _, h | .failed _, _, h => by simp [result?] at h
  | .telling .., h, _ => by simp [Halted] at h
  | .waiting due _, h, _ => ⟨due, rfl, h⟩
  | .sequel first _, h, _ => by
    simp only [nextDue?]
    exact exists_due first h.1 h.2
  | .joined joint members, h, _ => by
    simp only [nextDue?]
    exact exists_dueAll members h.1 (exists_unfinished h.2.1 h.2.2)

/-- So does one of several that are halted, if one is unfinished. -/
theorem exists_dueAll {now : Nat} : (members : List Activity) → HaltedAll now members →
    (∃ m ∈ members, m.result? = none) → ∃ due, nextDueAll? members = some due ∧ now < due
  | [], _, h => by simp at h
  | m :: rest, h, hu => by
    simp only [nextDueAll?]
    by_cases hr : ∃ m ∈ rest, m.result? = none
    · obtain ⟨due, hd, hlt⟩ := exists_dueAll rest h.2 hr
      rw [hd]
      by_cases hm : m.result? = none
      · obtain ⟨due', hd', hlt'⟩ := exists_due m h.1 hm
        rw [hd']
        exact ⟨min due' due, rfl, by omega⟩
      · rw [nextDue?_eq_none hm]
        exact ⟨due, rfl, hlt⟩
    · have hm : m.result? = none := by
        obtain ⟨u, hu, hn⟩ := hu
        rcases List.mem_cons.1 hu with he | he
        · exact he ▸ hn
        · exact absurd ⟨u, he, hn⟩ hr
      obtain ⟨due, hd, hlt⟩ := exists_due m h.1 hm
      rw [hd]
      cases hd' : nextDueAll? rest with
      | none => exact ⟨due, rfl, hlt⟩
      | some due' => exact absurd (exists_unfinished_of_due hd') hr
end

/-! ## The number of jumps -/

mutual
/-- An activity takes at most some number of jumps in time. -/
def Within : Activity → Nat → Prop
  | .settled _, _ | .failed _, _ => True
  | .telling _ rest, n => Within rest n
  | .waiting _ rest, n => ∃ m, m + 1 ≤ n ∧ Within rest m
  | .sequel first next, n =>
    ∃ k m, k + m ≤ n ∧ Within first k ∧ ∀ now outs, Within (next now outs) m
  | .joined _ members, n => WithinAll members n

/-- Several activities take at most some number of jumps together. -/
def WithinAll : List Activity → Nat → Prop
  | [], _ => True
  | a :: rest, n => ∃ k m, k + m ≤ n ∧ Within a k ∧ WithinAll rest m
end

mutual
theorem Within.mono {n n' : Nat} (hn : n ≤ n') : {a : Activity} → Within a n → Within a n'
  | .settled _, _ | .failed _, _ => by simp [Within]
  | .telling _ rest, h => by
    simp only [Within] at h ⊢
    exact Within.mono hn h
  | .waiting _ rest, h => by
    obtain ⟨m, hm, h⟩ := h
    exact ⟨m, by omega, h⟩
  | .sequel first next, h => by
    obtain ⟨k, m, hk, h⟩ := h
    exact ⟨k, m, by omega, h⟩
  | .joined _ members, h => by
    simp only [Within] at h ⊢
    exact WithinAll.mono hn h

theorem WithinAll.mono {n n' : Nat} (hn : n ≤ n') : {members : List Activity} → WithinAll members n →
    WithinAll members n'
  | [], _ => by simp [WithinAll]
  | a :: rest, h => by
    obtain ⟨k, m, hk, h⟩ := h
    exact ⟨k, m, by omega, h⟩
end

mutual
/-- A pass takes no jump. -/
theorem within_advance (now : Nat) : {a : Activity} → {n : Nat} → Within a n →
    Within (advance now a).2 n
  | .settled _, _, _ | .failed _, _, _ => by simp [advance, Within]
  | .telling _ rest, _, h => by
    simp only [advance, Within] at h ⊢
    exact within_advance now h
  | .waiting due rest, _, h => by
    simp only [advance]
    split
    · obtain ⟨m, hm, h⟩ := h
      exact (within_advance now h).mono (by omega)
    · exact h
  | .sequel first next, _, h => by
    obtain ⟨k, m, hk, hf, hn⟩ := h
    have ih := within_advance now hf
    simp only [advance]
    split
    · exact (within_advance now (hn now _)).mono (by omega)
    · simp [Within]
    · rename_i h
      rw [h] at ih
      exact ⟨k, m, hk, ih, hn⟩
  | .joined joint members, _, h => by
    simp only [advance, rejoined]
    split
    · simp [Within]
    · rename_i hc
      split
      · simp [Within]
      · simp only [Within] at h ⊢
        rw [advanceAll_eq_passed hc]
        exact within_passed now h

/-- Nor does a pass over members. -/
theorem within_passed (now : Nat) : {members : List Activity} → {n : Nat} → WithinAll members n →
    WithinAll (passed now members) n
  | [], _, _ => by simp [passed, WithinAll]
  | m :: rest, _, h => by
    obtain ⟨k, j, hk, hm, hr⟩ := h
    exact ⟨k, j, hk, within_advance now hm, within_passed now hr⟩
end

mutual
/-- A jump to the next instant is one jump less to come. -/
theorem within_jump {now due : Nat} : (a : Activity) → {n : Nat} → Halted now a →
    a.nextDue? = some due → Within a n → ∃ k, n = k + 1 ∧ Within (advance due a).2 k
  | .settled _, _, _, hd, _ | .failed _, _, _, hd, _ => by simp [nextDue?] at hd
  | .telling .., _, h, _, _ => by simp [Halted] at h
  | .waiting due' rest, n, _, hd, hw => by
    simp only [nextDue?, Option.some.injEq] at hd
    obtain ⟨m, hm, hw⟩ := hw
    simp only [advance, hd, Nat.le_refl, if_pos]
    exact ⟨n - 1, by omega, (within_advance due hw).mono (by omega)⟩
  | .sequel first next, n, h, hd, hw => by
    simp only [nextDue?] at hd
    obtain ⟨k, m, hk, hf, hn⟩ := hw
    obtain ⟨j, rfl, ih⟩ := within_jump first h.1 hd hf
    refine ⟨n - 1, by omega, ?_⟩
    simp only [advance]
    split
    · exact (within_advance due (hn due _)).mono (by omega)
    · simp [Within]
    · rename_i h
      rw [h] at ih
      exact ⟨j, m, by omega, ih, hn⟩
  | .joined joint members, n, h, hd, hw => by
    simp only [nextDue?] at hd
    obtain ⟨k, rfl, ih⟩ := within_jumpAll members h.1 hd hw
    refine ⟨k, rfl, ?_⟩
    simp only [advance, rejoined]
    split
    · simp [Within]
    · rename_i hc
      split
      · simp [Within]
      · simp only [Within]
        rw [advanceAll_eq_passed hc]
        exact ih

/-- So it is for members. -/
theorem within_jumpAll {now due : Nat} : (members : List Activity) → {n : Nat} → HaltedAll now members →
    nextDueAll? members = some due → WithinAll members n →
      ∃ k, n = k + 1 ∧ WithinAll (passed due members) k
  | [], _, _, hd, _ => by simp [nextDueAll?] at hd
  | m :: rest, n, h, hd, hw => by
    obtain ⟨k, j, hk, hm, hr⟩ := hw
    by_cases hf : m.nextDue? = some due
    · obtain ⟨k', rfl, ih⟩ := within_jump m h.1 hf hm
      exact ⟨n - 1, by omega, k', j, by omega, ih, within_passed due hr⟩
    · have hd' : nextDueAll? rest = some due := by
        simp only [nextDueAll?] at hd
        cases h₁ : m.nextDue? <;> cases h₂ : nextDueAll? rest <;> simp_all [earlier?]
        omega
      obtain ⟨j', rfl, ih⟩ := within_jumpAll rest h.2 hd' hr
      exact ⟨n - 1, by omega, k, j', by omega, within_advance due hm, ih⟩
end

/-! ## Runs -/

theorem run_isSome_of_advance {waits now : Nat} {a : Activity} (h : Within (advance now a).2 waits) :
    (run waits now a).2.isSome := by
  induction waits generalizing now a with
  | zero =>
    simp only [run, Option.isSome_map]
    by_cases hr : (advance now a).2.result? = none
    · obtain ⟨due, hd, -⟩ := exists_due _ (halted_advance now a) hr
      obtain ⟨k, hk, -⟩ := within_jump _ (halted_advance now a) hd h
      omega
    · exact Option.isSome_iff_ne_none.2 hr
  | succ waits ih =>
    simp only [run]
    split
    · rename_i due hr hd
      obtain ⟨k, hk, hw⟩ := within_jump _ (halted_advance now a) hd h
      obtain rfl : waits = k := by omega
      exact ih hw
    · rename_i hn
      simp only [Option.isSome_map]
      by_cases hr : (advance now a).2.result? = none
      · obtain ⟨due, hd, -⟩ := exists_due _ (halted_advance now a) hr
        exact absurd hd (hn due hr)
      · exact Option.isSome_iff_ne_none.2 hr

/-- A run with enough jumps has a result. -/
theorem run_isSome {waits now : Nat} {a : Activity} (h : Within a waits) : (run waits now a).2.isSome :=
  run_isSome_of_advance (within_advance now h)

end GatedFormula.Activity
