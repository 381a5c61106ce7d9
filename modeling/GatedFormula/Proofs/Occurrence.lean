/-
  Where one text stands in another.
  - `OccursAt p s i` says that `p` stands in `s` at place `i`, counted in characters.
  - `IsFirst` and `IsLast` say of an optional place that it is the first or the last of some places, or that there is
    none.
  - `isFirst_first?`, `isFirst_firstFrom?` and `isLast_last?`: what a search on characters finds.
-/
import GatedFormula.Text.Search
import Mathlib.Data.Set.Basic
import Mathlib.Order.Bounds.Basic

namespace GatedFormula.Text

variable {p s : List Char} {c : Char} {i k : ℕ}

/-- `p` stands in `s` at place `i`. -/
def OccursAt (p s : List Char) (i : ℕ) : Prop := ∃ before after, s = before ++ p ++ after ∧ before.length = i

theorem occursAt_iff : OccursAt p s i ↔ i ≤ s.length ∧ p <+: s.drop i := by
  constructor
  · rintro ⟨before, after, rfl, rfl⟩
    exact ⟨by simp, after, by simp⟩
  · rintro ⟨hi, after, h⟩
    refine ⟨s.take i, after, ?_, List.length_take_of_le hi⟩
    rw [List.append_assoc, h, List.take_append_drop]

theorem OccursAt.le (h : OccursAt p s i) : i + p.length ≤ s.length := by
  obtain ⟨before, after, rfl, rfl⟩ := h
  simp

theorem occursAt_zero_iff : OccursAt p s 0 ↔ startsWith p s := by
  rw [occursAt_iff, startsWith, List.isPrefixOf_iff_prefix]
  exact and_iff_right (Nat.zero_le _)

theorem occursAt_add_iff (hk : k ≤ s.length) : OccursAt p s (i + k) ↔ OccursAt p (s.drop k) i := by
  rw [occursAt_iff, occursAt_iff, List.length_drop, List.drop_drop, Nat.add_comm k i]
  exact and_congr_left fun _ => by omega

theorem occursAt_succ_iff : OccursAt p (c :: s) (i + 1) ↔ OccursAt p s i := occursAt_add_iff (by simp)

theorem occursAt_nil_iff : OccursAt p [] i ↔ p = [] ∧ i = 0 := by
  simp [occursAt_iff, and_comm]

/-- Ending at a place is standing before it. -/
theorem isSuffixOf_take_iff (hk : k ≤ s.length) : p.isSuffixOf (s.take k) ↔ ∃ i, OccursAt p s i ∧ i + p.length = k := by
  rw [List.isSuffixOf_iff_suffix]
  constructor
  · rintro ⟨before, h⟩
    refine ⟨before.length, ⟨before, s.drop k, ?_, rfl⟩, ?_⟩
    · rw [h, List.take_append_drop]
    · rw [← List.length_append, h, List.length_take_of_le hk]
  · rintro ⟨i, ⟨before, after, rfl, rfl⟩, rfl⟩
    refine ⟨before, ?_⟩
    rw [← List.length_append, List.take_left]

/-! ## First and last places -/

/-- The first of some places, or none if there are none. -/
def IsFirst (S : Set ℕ) : Option ℕ → Prop
  | some i => IsLeast S i
  | none => S = ∅

/-- The last of some places, or none if there are none. -/
def IsLast (S : Set ℕ) : Option ℕ → Prop
  | some i => IsGreatest S i
  | none => S = ∅

variable {S T : Set ℕ} {a b : Option ℕ}

theorem IsFirst.unique (ha : IsFirst S a) (hb : IsFirst S b) : a = b := by
  cases a with
  | none =>
    cases b with
    | none => rfl
    | some j => exact absurd hb.1 (Set.eq_empty_iff_forall_notMem.1 ha j)
  | some i =>
    cases b with
    | none => exact absurd ha.1 (Set.eq_empty_iff_forall_notMem.1 hb i)
    | some j => rw [IsLeast.unique ha hb]

/-- Places that all lie `k` further on. -/
theorem IsFirst.map_add (ha : IsFirst S a) (hle : ∀ j ∈ T, k ≤ j) (h : ∀ i, i + k ∈ T ↔ i ∈ S) :
    IsFirst T (a.map (· + k)) := by
  cases a with
  | none =>
    refine Set.eq_empty_iff_forall_notMem.2 fun j hj => ?_
    have hS : j - k ∈ S := (h _).1 (by rwa [Nat.sub_add_cancel (hle j hj)])
    exact Set.eq_empty_iff_forall_notMem.1 ha _ hS
  | some i =>
    refine ⟨(h i).2 ha.1, fun j hj => ?_⟩
    have hS : j - k ∈ S := (h _).1 (by rwa [Nat.sub_add_cancel (hle j hj)])
    have hij : i ≤ j - k := ha.2 hS
    exact Nat.add_le_of_le_sub (hle j hj) hij

/-- **`first?` finds the first place where a text stands.** -/
theorem isFirst_first? (p s : List Char) : IsFirst {i | OccursAt p s i} (first? p s) := by
  induction s with
  | nil =>
    rw [first?]
    split
    · rename_i hp
      exact ⟨occursAt_nil_iff.2 ⟨List.isEmpty_iff.1 hp, rfl⟩, fun i _ => Nat.zero_le i⟩
    · rename_i hp
      exact Set.eq_empty_iff_forall_notMem.2 fun i hi => hp (List.isEmpty_iff.2 (occursAt_nil_iff.1 hi).1)
  | cons c s ih =>
    rw [first?]
    split
    · rename_i hp
      exact ⟨occursAt_zero_iff.2 hp, fun i _ => Nat.zero_le i⟩
    · rename_i hp
      refine ih.map_add (fun j hj => ?_) fun i => occursAt_succ_iff
      refine Nat.one_le_iff_ne_zero.2 ?_
      rintro rfl
      exact hp (occursAt_zero_iff.1 hj)

/-- The first place from place `k` on where `p` occurs. -/
def firstFrom? (p s : List Char) (k : ℕ) : Option ℕ := (first? p (s.drop k)).map (· + k)

/-- **`firstFrom?` finds the first place from a place on.** -/
theorem isFirst_firstFrom? (hk : k ≤ s.length) : IsFirst {i | k ≤ i ∧ OccursAt p s i} (firstFrom? p s k) := by
  refine (isFirst_first? p (s.drop k)).map_add (fun j hj => hj.1) fun i => ?_
  exact (and_iff_right (Nat.le_add_left k i)).trans (occursAt_add_iff hk)

theorem firstFrom?_zero (p s : List Char) : firstFrom? p s 0 = first? p s := by
  rw [firstFrom?, List.drop_zero]
  exact Option.map_id'

/-- **`last?` finds the last place where a text stands.** -/
theorem isLast_last? (p s : List Char) : IsLast {i | OccursAt p s i} (last? p s) := by
  induction s with
  | nil =>
    rw [last?]
    split
    · rename_i hp
      exact ⟨occursAt_nil_iff.2 ⟨List.isEmpty_iff.1 hp, rfl⟩, fun i hi => (occursAt_nil_iff.1 hi).2.le⟩
    · rename_i hp
      exact Set.eq_empty_iff_forall_notMem.2 fun i hi => hp (List.isEmpty_iff.2 (occursAt_nil_iff.1 hi).1)
  | cons c s ih =>
    rw [last?]
    cases hl : last? p s with
    | some j =>
      rw [hl] at ih
      refine ⟨occursAt_succ_iff.2 ih.1, fun i hi => ?_⟩
      cases i with
      | zero => exact Nat.zero_le _
      | succ i => exact Nat.succ_le_succ (ih.2 (occursAt_succ_iff.1 hi))
    | none =>
      rw [hl] at ih
      -- nothing stands in the rest, so only the start is left
      have hrest (i : ℕ) : ¬ OccursAt p (c :: s) (i + 1) := fun hi =>
        Set.eq_empty_iff_forall_notMem.1 ih i (occursAt_succ_iff.1 hi)
      simp only
      split
      · rename_i hp
        refine ⟨occursAt_zero_iff.2 hp, fun i hi => ?_⟩
        cases i with
        | zero => exact le_rfl
        | succ i => exact absurd hi (hrest i)
      · rename_i hp
        refine Set.eq_empty_iff_forall_notMem.2 fun i hi => ?_
        cases i with
        | zero => exact hp (occursAt_zero_iff.1 hi)
        | succ i => exact hrest i hi

end GatedFormula.Text
