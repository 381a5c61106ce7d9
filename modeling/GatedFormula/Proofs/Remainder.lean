/-
  Whole parts and remainders of doubles are exact.
  - `Exact.Representable` says which numbers have a double without rounding: `Exact.value?_toFloat`.
  - `Number.value?_truncated` and `Number.value?_remainder`: the whole part of a double and the remainder of two are
    doubles again, so nothing is rounded.
-/
import GatedFormula.Proofs.WholePart

namespace GatedFormula

namespace Exact

variable {m n k : ℕ} {e f unit : ℤ} {negative : Bool} {q : ℚ}

/-- A magnitude with a significand of fifty-three bits and an exponent in range. -/
def Representable (q : ℚ) : Prop := ∃ (k : ℕ) (f : ℤ), k < 2 ^ 53 ∧ -1074 ≤ f ∧ f ≤ 971 ∧ q = k * 2 ^ f

/-- What the sign of a double multiplies its magnitude with. -/
def signFactor (negative : Bool) : ℚ := if negative then -1 else 1

theorem signFactor_mul_self (negative : Bool) : signFactor negative * signFactor negative = 1 := by
  cases negative <;> norm_num [signFactor]

theorem value?_finite : (finite negative m e).value? = some (signFactor negative * (m * 2 ^ e)) := rfl

theorem exists_finite {x : Float} (h : Number.value? x = some q) :
    ∃ negative m e, Exact.of x = .finite negative m e ∧ q = signFactor negative * (m * 2 ^ e) := by
  rw [Number.value?] at h
  cases hx : Exact.of x with
  | nan | infinite => rw [hx] at h; cases h
  | finite negative m e =>
    rw [hx, value?_finite, Option.some.injEq] at h
    exact ⟨negative, m, e, rfl, h.symm⟩

/-! ## Rounding keeps doubles -/

theorem exponent_le {x : Float} (h : Exact.of x = .finite negative m e) : e ≤ 971 := by
  have hexp := Nat.mod_lt (x.toBits.toNat / 2 ^ 52) (Nat.zero_lt_succ 2047)
  rw [Exact.of] at h
  simp only [twoTo, Nat.pow_eq] at h
  split at h
  · split at h <;> cases h
  · split at h
    · obtain ⟨-, -, rfl⟩ := Exact.finite.inj h
      norm_num
    · obtain ⟨-, -, rfl⟩ := Exact.finite.inj h
      omega

/-- A fraction without exponent bits counts the smallest numbers. -/
theorem of_fraction {b : ℕ} (hf : m < 2 ^ 52) (hb : b = m + if negative then 2 ^ 63 else 0) :
    Exact.of (Float.ofBits (UInt64.ofNat b)) = .finite negative m (-1074) := by
  rw [of_bits (Nat.zero_lt_succ 2046) hf (by rw [hb, Nat.zero_mul, Nat.zero_add]), if_pos rfl]

/-- A significand that is filled up, or has the least exponent, is what its bits denote. -/
theorem value?_bits (hm : m < 2 ^ 53) (hlead : 2 ^ 52 ≤ m ∨ unit = -1074) (hu : -1074 ≤ unit) (hu' : unit ≤ 971) :
    (Exact.of (Float.ofBits (UInt64.ofNat
      ((unit + 1074).toNat * 2 ^ 52 + m + if negative then 2 ^ 63 else 0)))).value? =
        some (signFactor negative * (m * 2 ^ unit)) := by
  by_cases hm' : 2 ^ 52 ≤ m
  · exact value?_normal hm' hm hu hu'
  · obtain rfl : unit = -1074 := hlead.resolve_left hm'
    have hzero : ((-1074 : ℤ) + 1074).toNat * 2 ^ 52 + m = m := Nat.zero_add m
    rw [hzero, of_fraction (not_le.1 hm') rfl, value?_finite]

/-- A multiple is divided without rounding. -/
theorem roundedQuotient_mul (n : ℕ) {d : ℕ} (hd : 0 < d) : roundedQuotient (n * d) d = n := by
  rw [roundedQuotient, Nat.mul_mod_left, Nat.mul_div_cancel n hd]
  simp only [mul_zero, if_pos hd]

theorem log2_bounds (hm : m ≠ 0) (e : ℤ) :
    (2 : ℚ) ^ (e + m.log2) ≤ m * 2 ^ e ∧ (m : ℚ) * 2 ^ e < 2 ^ (e + m.log2 + 1) := by
  have hlow : (2 : ℚ) ^ m.log2 ≤ m := by exact_mod_cast Nat.log2_self_le hm
  have hhigh : (m : ℚ) < 2 ^ (m.log2 + 1) := by exact_mod_cast Nat.lt_log2_self
  have hpos : (0 : ℚ) < 2 ^ e := by positivity
  constructor
  · rw [zpow_add₀ two_ne_zero, zpow_natCast, mul_comm]
    gcongr
  · rw [add_assoc, zpow_add₀ two_ne_zero, mul_comm]
    gcongr
    exact_mod_cast hhigh

/-- Of a multiple of the last place nothing is rounded off. -/
theorem magnitudeBits_eq (hm : m ≠ 0) (hunit : max (e + m.log2 - 52) (-1074) = unit)
    (hu : unit ≤ 971) (hk : k < 2 ^ 53) (h : (m : ℚ) * 2 ^ e = k * 2 ^ unit) :
    magnitudeBits m e = (unit + 1074).toNat * 2 ^ 52 + k := by
  have hrounded : (if unit ≤ e then m * twoTo (e - unit).toNat
      else roundedQuotient m (twoTo (unit - e).toNat)) = k := by
    split
    · obtain ⟨i, rfl⟩ : ∃ i : ℕ, e = unit + i := ⟨(e - unit).toNat, by omega⟩
      rw [zpow_add₀ two_ne_zero, mul_left_comm, mul_comm, mul_left_inj' (by positivity), zpow_natCast] at h
      rw [add_sub_cancel_left, Int.toNat_natCast]
      exact_mod_cast h
    · obtain ⟨i, rfl⟩ : ∃ i : ℕ, unit = e + i := ⟨(unit - e).toNat, by omega⟩
      rw [zpow_add₀ two_ne_zero, mul_left_comm, mul_comm, mul_right_inj' (by positivity), zpow_natCast] at h
      have hmul : m = k * 2 ^ i := by exact_mod_cast h
      rw [add_sub_cancel_left, Int.toNat_natCast, hmul]
      exact roundedQuotient_mul k (Nat.two_pow_pos i)
  rw [magnitudeBits, if_neg hm]
  simp only [hunit]
  rw [if_neg (by omega), hrounded]
  refine min_eq_right ?_
  change _ * 2 ^ 52 + k ≤ 2047 * 2 ^ 52
  omega

/-- A representable number is a multiple of its last place. Above the smallest places the leading bit is the
fifty-third. -/
theorem exists_filled (hm : m ≠ 0) (h : Representable (m * 2 ^ e)) : ∃ (k : ℕ) (unit : ℤ),
    max (e + m.log2 - 52) (-1074) = unit ∧ unit ≤ 971 ∧ k < 2 ^ 53 ∧ (2 ^ 52 ≤ k ∨ unit = -1074) ∧
      (m : ℚ) * 2 ^ e = k * 2 ^ unit := by
  obtain ⟨k, f, hk, hf, hf', hq⟩ := h
  obtain ⟨hlow, hhigh⟩ := log2_bounds hm e
  have hk' : (k : ℚ) < 2 ^ (53 : ℤ) := by exact_mod_cast hk
  have htop : e + m.log2 < 53 + f := by
    refine (zpow_lt_zpow_iff_right₀ (one_lt_two (α := ℚ))).1 ?_
    calc (2 : ℚ) ^ (e + m.log2) ≤ k * 2 ^ f := hq ▸ hlow
      _ < 2 ^ (53 : ℤ) * 2 ^ f := by gcongr
      _ = 2 ^ (53 + f) := (zpow_add₀ two_ne_zero _ _).symm
  obtain ⟨unit, hunit⟩ : ∃ unit, max (e + m.log2 - 52) (-1074) = unit := ⟨_, rfl⟩
  obtain ⟨i, rfl⟩ : ∃ i : ℕ, f = unit + i := ⟨(f - unit).toNat, by omega⟩
  have hfilled : (m : ℚ) * 2 ^ e = (k * 2 ^ i : ℕ) * 2 ^ unit := by
    rw [hq, zpow_add₀ two_ne_zero, zpow_natCast]
    push_cast
    ring
  have hpos : (0 : ℚ) < 2 ^ unit := by positivity
  refine ⟨k * 2 ^ i, unit, hunit, by omega, ?_, ?_, hfilled⟩
  · have hlt : ((k * 2 ^ i : ℕ) : ℚ) * 2 ^ unit < 2 ^ (53 : ℤ) * 2 ^ unit := by
      rw [← hfilled, ← zpow_add₀ two_ne_zero]
      exact hhigh.trans_le (zpow_le_zpow_right₀ one_le_two (by omega))
    exact_mod_cast lt_of_mul_lt_mul_right hlt hpos.le
  · rcases max_choice (e + (m.log2 : ℤ) - 52) (-1074) with hmax | hmax
    · left
      have hle : (2 : ℚ) ^ (52 : ℤ) * 2 ^ unit ≤ ((k * 2 ^ i : ℕ) : ℚ) * 2 ^ unit := by
        rw [← hfilled, ← zpow_add₀ two_ne_zero]
        exact (zpow_le_zpow_right₀ one_le_two (by omega)).trans hlow
      exact_mod_cast le_of_mul_le_mul_right hle hpos
    · exact .inr (hunit.symm.trans hmax)

/-- **Rounding keeps a number that is representable.** -/
theorem value?_toFloat (h : Representable (m * 2 ^ e)) (negative : Bool) :
    Number.value? (toFloat (.finite negative m e)) = some (signFactor negative * (m * 2 ^ e)) := by
  rw [Number.value?, toFloat]
  rcases eq_or_ne m 0 with rfl | hm
  · have hbits : magnitudeBits 0 e + (if negative then twoTo 63 else 0) = 0 + if negative then 2 ^ 63 else 0 := rfl
    rw [hbits, of_fraction (by decide) rfl, value?_finite, Nat.cast_zero, zero_mul, zero_mul]
  · obtain ⟨k, unit, hunit, hu, hk, hlead, hfilled⟩ := exists_filled hm h
    rw [magnitudeBits_eq hm hunit hu hk hfilled, hfilled]
    exact value?_bits hk hlead (by omega) hu

end Exact

namespace Number

open Exact

variable {x y : Float} {p q : ℚ}

/-- **The whole part of a double is a double.** -/
theorem value?_truncated (h : value? x = some q) : value? (truncated x) = some (whole q : ℚ) := by
  have hwhole := truncated?_of_value? h
  obtain ⟨negative, m, e, hx, -⟩ := exists_finite h
  obtain ⟨hm, he, -⟩ := leading_bit hx
  have hrep : Representable ((wholeMagnitude m e : ℚ) * 2 ^ (0 : ℤ)) := by
    rw [zpow_zero, mul_one, wholeMagnitude]
    split
    · rename_i hpos
      obtain ⟨i, rfl⟩ := Int.eq_ofNat_of_zero_le hpos
      refine ⟨m, i, hm, he, exponent_le hx, ?_⟩
      rw [Int.toNat_natCast, zpow_natCast]
      exact_mod_cast rfl
    · refine ⟨m / twoTo (-e).toNat, 0, (Nat.div_le_self ..).trans_lt hm, by decide, by decide, ?_⟩
      rw [zpow_zero, mul_one]
  simp only [truncated?, hx, Option.some.injEq] at hwhole
  simp only [truncated, hx]
  rw [value?_toFloat hrep, ← hwhole, zpow_zero, mul_one, signFactor]
  cases negative <;> simp

theorem whole_neg (q : ℚ) : whole (-q) = -whole q := by
  rcases le_total 0 q with h | h
  · rw [whole_neg_of_nonneg h, whole_of_nonneg h]
  · have h' : 0 ≤ -q := neg_nonneg.2 h
    rw [whole_of_nonneg h', ← neg_neg (whole q), ← neg_neg q, whole_neg_of_nonneg h']
    simp

theorem whole_signFactor_mul (negative : Bool) (q : ℚ) :
    (whole (signFactor negative * q) : ℚ) = signFactor negative * whole q := by
  cases negative with
  | false => rw [signFactor, if_neg Bool.false_ne_true, one_mul, one_mul]
  | true => rw [signFactor, if_pos rfl, neg_one_mul, neg_one_mul, whole_neg, Int.cast_neg]

theorem whole_natCast_div (m n : ℕ) : whole ((m : ℚ) / n) = (m / n : ℕ) := by
  rw [whole_of_nonneg (by positivity), Nat.floor_div_eq_div]

/-- The whole part of a quotient does not depend on the unit. -/
theorem whole_div (a b : Bool) (m n : ℕ) {u : ℚ} (hu : u ≠ 0) :
    (whole (signFactor a * (m * u) / (signFactor b * (n * u))) : ℚ) = signFactor a * (signFactor b * (m / n : ℕ)) := by
  have hinv : (signFactor b)⁻¹ = signFactor b := inv_eq_of_mul_eq_one_left (signFactor_mul_self b)
  have hdiv : signFactor a * (m * u) / (signFactor b * (n * u)) = signFactor a * (signFactor b * ((m : ℚ) / n)) := by
    rw [mul_div_mul_comm, mul_div_mul_right _ _ hu, div_eq_mul_inv (signFactor a), hinv, mul_assoc]
  rw [hdiv, whole_signFactor_mul, whole_signFactor_mul, whole_natCast_div, Int.cast_natCast]

/-- **The remainder of two doubles is a double**: what is left of the dividend once the divisor is taken off as often as
the whole part of the quotient says. -/
theorem value?_remainder (hx : value? x = some p) (hy : value? y = some q) (hq : q ≠ 0) :
    value? (remainder x y) = some (p - q * whole (p / q)) := by
  obtain ⟨a, m, e, hx', rfl⟩ := exists_finite hx
  obtain ⟨b, n, f, hy', rfl⟩ := exists_finite hy
  obtain ⟨hm, he, -⟩ := leading_bit hx'
  obtain ⟨hn, hf, -⟩ := leading_bit hy'
  have he' := exponent_le hx'
  have hn0 : n ≠ 0 := by
    rintro rfl
    exact hq (by rw [Nat.cast_zero, zero_mul, mul_zero])
  -- both are counted in the smaller of their units, in which one of them keeps its significand
  obtain ⟨unit, hunit⟩ : ∃ unit, min e f = unit := ⟨_, rfl⟩
  obtain ⟨i, rfl⟩ : ∃ i : ℕ, e = unit + i := ⟨(e - unit).toNat, by omega⟩
  obtain ⟨j, rfl⟩ : ∃ j : ℕ, f = unit + j := ⟨(f - unit).toNat, by omega⟩
  have hlt : m * 2 ^ i % (n * 2 ^ j) < 2 ^ 53 := by
    rcases (by omega : i = 0 ∨ j = 0) with rfl | rfl
    · rw [pow_zero, mul_one]
      exact (Nat.mod_le ..).trans_lt hm
    · rw [pow_zero, mul_one]
      exact (Nat.mod_lt _ (Nat.pos_of_ne_zero hn0)).trans hn
  have hscale (k l : ℕ) : (k : ℚ) * 2 ^ (unit + l) = (k * 2 ^ l : ℕ) * 2 ^ unit := by
    rw [zpow_add₀ two_ne_zero, zpow_natCast]
    push_cast
    ring
  simp only [remainder, hx', hy', if_neg hn0, hunit, add_sub_cancel_left, Int.toNat_natCast, twoTo, Nat.pow_eq]
  rw [hscale, hscale, whole_div a b _ _ (by positivity)]
  generalize m * 2 ^ i = k at *
  generalize n * 2 ^ j = l at *
  have hrep : Representable ((k % l : ℕ) * 2 ^ unit) := ⟨k % l, unit, hlt, by omega, by omega, rfl⟩
  have hdiv : (k : ℚ) = l * (k / l : ℕ) + (k % l : ℕ) := by exact_mod_cast (Nat.div_add_mod k l).symm
  have hsign := signFactor_mul_self b
  rw [value?_toFloat hrep]
  congr 1
  linear_combination -(signFactor a * 2 ^ unit) * hdiv + signFactor a * 2 ^ unit * l * (k / l : ℕ) * hsign

/-- The quotient of two whole numbers is rounded toward zero. -/
theorem whole_intCast_div (n d : ℤ) : whole ((n : ℚ) / d) = n.tdiv d := by
  obtain ⟨k, rfl | rfl⟩ := n.eq_nat_or_neg <;> obtain ⟨l, rfl | rfl⟩ := d.eq_nat_or_neg <;>
    simp [neg_div, div_neg, whole_neg, whole_natCast_div, Int.neg_tdiv, Int.tdiv_neg]

theorem value?_remainder_intCast {n d : ℤ} (hx : value? x = some (n : ℚ)) (hy : value? y = some (d : ℚ)) (hd : d ≠ 0) :
    value? (remainder x y) = some (n.tmod d : ℚ) := by
  rw [value?_remainder hx hy (Int.cast_ne_zero.2 hd), whole_intCast_div, Int.tmod_def]
  push_cast
  rfl

end Number

end GatedFormula
