/-
  Whole parts of numbers, and the positions that arguments give.
  - `Number.whole` is the whole part of a number, rounded toward zero, and `Number.truncated?_of_value?` says that it is
    taken of what a double denotes.
  - `Value.Points` says which position an argument gives, and `Argument.position_eq_ok_iff` that it is read as that one.
  - `Position.clamped_mono` and `Position.relative_of_nonneg`: how places in a text follow the order of numbers.
-/
import GatedFormula.Method.Argument
import GatedFormula.Proofs.Comparison

namespace GatedFormula

/-- The whole part of a number, rounded toward zero. -/
def Number.whole (q : ℚ) : ℤ := if 0 ≤ q then ⌊q⌋ else ⌈q⌉

variable {x y : Float} {q : ℚ} {length : ℕ}

namespace Number

theorem value?_zero : value? 0 = some 0 := by
  have hzero : (0 : Float) = ofWhole 0 := by decide
  rw [hzero, value?_ofWhole (by decide), Int.cast_zero]

theorem whole_of_nonneg (h : 0 ≤ q) : whole q = ⌊q⌋₊ := by
  rw [whole, if_pos h, Int.natCast_floor_eq_floor h]

theorem whole_neg_of_nonneg (h : 0 ≤ q) : whole (-q) = -(⌊q⌋₊ : ℤ) := by
  rw [whole]
  split
  · obtain rfl : q = 0 := by linarith
    simp
  · rw [Int.ceil_neg, Int.natCast_floor_eq_floor h]

theorem whole_intCast (n : ℤ) : whole n = n := by
  rw [whole, Int.floor_intCast, Int.ceil_intCast, ite_self]

/-- The whole part of a double is that of the number that it denotes. -/
theorem truncated?_of_value? (h : value? x = some q) : truncated? x = some (whole q) := by
  rw [value?] at h
  cases hx : Exact.of x with
  | nan | infinite => rw [hx] at h; cases h
  | finite negative m e =>
    rw [hx, Exact.value?, Option.some.injEq] at h
    have hpos : (0 : ℚ) ≤ m * 2 ^ e := by positivity
    simp only [truncated?, hx, Exact.wholeMagnitude_eq_floor, Option.some.injEq]
    cases negative with
    | false =>
      rw [if_neg Bool.false_ne_true, one_mul] at h
      rw [if_neg Bool.false_ne_true, ← h, whole_of_nonneg hpos]
    | true =>
      rw [if_pos rfl, neg_one_mul] at h
      rw [if_pos rfl, ← h, whole_neg_of_nonneg hpos]

end Number

/-! ## Positions -/

namespace Position

theorem ofNumber_eq_index_whole (h : Number.value? x = some q) : ofNumber x = .index (Number.whole q) := by
  have hwhole := Number.truncated?_of_value? h
  rw [Number.value?] at h
  cases hx : Exact.of x with
  | nan | infinite => rw [hx] at h; cases h
  | finite => simp only [ofNumber, hx, hwhole, Option.getD_some]

theorem clamped_le (p : Position) (length : ℕ) : p.clamped length ≤ length := by
  cases p with
  | before => exact Nat.zero_le _
  | index i => exact min_le_right _ _
  | beyond => exact le_rfl

theorem relative_le (p : Position) (length : ℕ) : p.relative length ≤ length := by
  cases p with
  | before => exact Nat.zero_le _
  | index i =>
    rw [relative]
    split
    · omega
    · exact min_le_right _ _
  | beyond => exact le_rfl

/-- A larger number does not give an earlier place. -/
theorem clamped_mono (h : x ≤ y) (length : ℕ) : (ofNumber x).clamped length ≤ (ofNumber y).clamped length := by
  rcases Number.le_iff.1 h with ⟨p, q, hp, hq, hpq⟩ | ⟨hx, -⟩ | ⟨hy, -⟩
  · rw [clamped_of_value? hp, clamped_of_value? hq]
    exact min_le_min_right _ (Nat.floor_mono hpq)
  · simp [ofNumber, hx, clamped]
  · have hbeyond : ofNumber y = .beyond := by rw [ofNumber, hy]; rfl
    rw [hbeyond]
    exact clamped_le _ _

/-- Only a negative number counts from the end. -/
theorem relative_of_nonneg (h : 0 ≤ x) (length : ℕ) : (ofNumber x).relative length = (ofNumber x).clamped length := by
  have hzero := Number.value?_zero
  rcases Number.le_iff.1 h with ⟨p, q, hp, hq, hpq⟩ | ⟨hnone, -⟩ | ⟨hx, -⟩
  · obtain rfl := Option.some.inj (hzero.symm.trans hp)
    rw [ofNumber_eq_index_whole hq, Number.whole_of_nonneg hpq, relative, if_neg (by omega), clamped]
  · rw [Number.value?, hnone] at hzero
    cases hzero
  · have hbeyond : ofNumber x = .beyond := by rw [ofNumber, hx]; rfl
    rw [hbeyond, relative, clamped]

end Position

/-- The position that an argument gives: the whole part of a number, the start for what is no number, and a default if
it is missing. -/
inductive Value.Points (default : Position) : Value → Position → Prop
  | missing : Points default .undefined default
  | finite {x : Float} {q : ℚ} (h : Number.value? x = some q) :
      Points default (.number x) (.index (Number.whole q))
  | infinite {x : Float} {negative : Bool} (h : Exact.of x = .infinite negative) :
      Points default (.number x) (if negative then .before else .beyond)
  | nan {x : Float} (h : Exact.of x = .nan) : Points default (.number x) (.index 0)

theorem Value.points_number (default : Position) (x : Float) : (Value.number x).Points default (.ofNumber x) := by
  cases hx : Exact.of x with
  | nan =>
    rw [Position.ofNumber, hx]
    exact .nan hx
  | infinite negative =>
    rw [Position.ofNumber, hx]
    exact .infinite hx
  | finite negative m e =>
    obtain ⟨q, hq⟩ : ∃ q, Number.value? x = some q := ⟨_, by rw [Number.value?, hx]; rfl⟩
    rw [Position.ofNumber_eq_index_whole hq]
    exact .finite hq

/-- A whole number gives the position of that number. -/
theorem Value.points_ofWhole {n : ℤ} (h : n.natAbs < 2 ^ 53) (default : Position) :
    (Value.number (Number.ofWhole n)).Points default (.index n) := by
  have hpoints : (Value.number (Number.ofWhole n)).Points default (.index (Number.whole n)) :=
    .finite (Number.value?_ofWhole h)
  rwa [Number.whole_intCast] at hpoints

theorem Value.Points.eq_ofNumber {default t : Position} (h : (Value.number x).Points default t) :
    t = .ofNumber x := by
  cases h with
  | finite h => exact (Position.ofNumber_eq_index_whole h).symm
  | infinite h => rw [Position.ofNumber, h]
  | nan h => rw [Position.ofNumber, h]

/-- **An argument is read as the position that it gives.** -/
theorem Argument.position_eq_ok_iff {function : String} {args : List Value} {i : ℕ} {default t : Position} :
    position function args i default = .ok t ↔ (get args i).Points default t := by
  rw [position]
  constructor
  · intro h
    split at h
    · rename_i hv
      rw [hv, ← Except.ok.inj h]
      exact .missing
    · rename_i hv
      rw [hv, ← Except.ok.inj h]
      exact Value.points_number default _
    · cases h
  · intro h
    cases hv : get args i with
    | undefined =>
      rw [hv] at h
      cases h
      rfl
    | number x =>
      rw [hv] at h
      rw [h.eq_ofNumber]
    | _ =>
      rw [hv] at h
      cases h

end GatedFormula
