/-
  The order of doubles is the order of the numbers that they denote.
  - `Exact.of_eq_ofUnpacked`: what a double denotes, by the fields that comparing looks at.
  - `Exact.compare_cases`: exponents decide first and then significands, which gives the order of the numbers.
  Main statement: `Number.le_iff`.
-/
import GatedFormula.Proofs.Rounding

namespace GatedFormula

/-! ## Fields of a double -/

namespace Exact

open Float.Model (Format UnpackedFloat)
open Float.Model.UnpackedFloat (Sign unpackExponent unpackMantissa unpackSign unpack)

theorem toNat_unpackMantissa (b : BitVec Format.binary64.numBits) : (unpackMantissa b).toNat = b.toNat % 2 ^ 52 := by
  simp only [unpackMantissa, BitVec.toNat_cast, BitVec.extractLsb_toNat, Nat.shiftRight_eq_div_pow, pow_zero,
    Nat.div_one]

theorem toNat_unpackSign (b : BitVec Format.binary64.numBits) : (unpackSign b).toNat = b.toNat / 2 ^ 63 % 2 := by
  simp only [unpackSign, BitVec.toNat_cast, BitVec.extractLsb_toNat, Nat.shiftRight_eq_div_pow]

/-- Is it the minus sign? -/
def isMinus : Sign → Bool
  | .negative => true
  | .positive => false

/-- The number that an unpacked double is. -/
def ofUnpacked : UnpackedFloat → Exact
  | .notANumber => .nan
  | .infinity s => .infinite (isMinus s)
  | .zero s => .finite (isMinus s) 0 (-1074)
  | .finite s m e _ => .finite (isMinus s) m e

theorem isMinus_ofBitVec (b : BitVec Format.binary64.numBits) :
    isMinus (Sign.ofBitVec (unpackSign b)) = decide (2 ^ 63 ≤ b.toNat) := by
  have h := toNat_unpackSign b
  have hlt : b.toNat < 2 ^ 64 := b.isLt
  rw [Sign.ofBitVec]
  split
  · rename_i hs
    rw [hs] at h
    change 0 = _ at h
    exact (decide_eq_false (by omega)).symm
  · rename_i hs
    have hne : (unpackSign b).toNat ≠ 0 := fun h0 => hs (BitVec.eq_of_toNat_eq h0)
    exact (decide_eq_true (by omega)).symm

/-- Both ways of reading a double agree. -/
theorem of_eq_ofUnpacked (x : Float) : Exact.of x = ofUnpacked x.toModel.unpack := by
  obtain ⟨b, hb, hx⟩ : ∃ b : BitVec Format.binary64.numBits, x.toBits.toNat = b.toNat ∧
      x.toModel.unpack = unpack Format.binary64 b := ⟨x.toBits.toBitVec, rfl, rfl⟩
  have hones : unpackExponent b = -1#_ ↔ b.toNat / 2 ^ 52 % 2048 = 2047 := by
    rw [← BitVec.toNat_inj, toNat_unpackExponent]
    rfl
  have hzeros : unpackExponent b = 0#_ ↔ b.toNat / 2 ^ 52 % 2048 = 0 := by
    rw [← BitVec.toNat_inj, toNat_unpackExponent]
    rfl
  have hzero : unpackMantissa b = 0#_ ↔ b.toNat % 2 ^ 52 = 0 := by
    rw [← BitVec.toNat_inj, toNat_unpackMantissa]
    rfl
  have hone : (1#1 ++ unpackMantissa b).toNat = 2 ^ 52 + b.toNat % 2 ^ 52 := by
    rw [BitVec.toNat_append, toNat_unpackMantissa]
    exact (Nat.two_pow_add_eq_or_of_lt (Nat.mod_lt _ (Nat.two_pow_pos 52)) 1).symm
  have hbias : (Format.binary64.exponentBias : ℤ) + Format.binary64.mantissaBitsWithoutImplicit = 1075 := rfl
  rw [hx, Exact.of, hb, unpack]
  simp only [twoTo, Nat.pow_eq, hones, hzeros, hzero, apply_ite ofUnpacked, apply_dite ofUnpacked]
  split
  · simp only [ofUnpacked, isMinus_ofBitVec]
  · split
    · rename_i hz
      split
      · rename_i hm
        rw [hm, ofUnpacked, isMinus_ofBitVec]
      · simp only [ofUnpacked, isMinus_ofBitVec, toNat_unpackMantissa, toNat_unpackExponent, hbias, hz]
        rfl
    · simp only [ofUnpacked, isMinus_ofBitVec, hone, toNat_unpackExponent, hbias]

/-! ## Significands and exponents -/

variable {x y : Float} {m n : ℕ} {e f : ℤ}

/-- Larger numbers than the smallest ones have a leading bit. -/
theorem leading_bit {negative : Bool} (h : Exact.of x = .finite negative m e) :
    m < 2 ^ 53 ∧ -1074 ≤ e ∧ (-1074 < e → 2 ^ 52 ≤ m) := by
  refine ⟨significand_lt h, ?_⟩
  rw [Exact.of] at h
  split at h
  · split at h <;> cases h
  · split at h
    · obtain ⟨-, -, rfl⟩ := Exact.finite.inj h
      exact ⟨le_rfl, fun he => absurd he (lt_irrefl _)⟩
    · obtain ⟨-, rfl, rfl⟩ := Exact.finite.inj h
      exact ⟨by omega, fun _ => Nat.le_add_right ..⟩

/-- A number with a larger exponent is larger. -/
theorem magnitude_lt (hm : m < 2 ^ 53) (hn : 2 ^ 52 ≤ n) (h : e < f) : (m : ℚ) * 2 ^ e < n * 2 ^ f := by
  have hm' : (m : ℚ) < 2 ^ 53 := by exact_mod_cast hm
  have hn' : (2 : ℚ) ^ 52 ≤ n := by exact_mod_cast hn
  calc (m : ℚ) * 2 ^ e < 2 ^ 53 * 2 ^ e := by gcongr
    _ = 2 ^ 52 * 2 ^ (e + 1) := by rw [zpow_add_one₀ two_ne_zero]; ring
    _ ≤ n * 2 ^ f := by gcongr; norm_num; exact h

/-- **Exponents decide first, then significands.** -/
theorem compare_cases {a b : Bool} (hx : Exact.of x = .finite a m e) (hy : Exact.of y = .finite b n f) :
    ((compare e f).then (compare m n) = .lt ∧ (m : ℚ) * 2 ^ e < n * 2 ^ f) ∨
      ((compare e f).then (compare m n) = .eq ∧ (m : ℚ) * 2 ^ e = n * 2 ^ f) ∨
      ((compare e f).then (compare m n) = .gt ∧ (n : ℚ) * 2 ^ f < m * 2 ^ e) := by
  obtain ⟨hm, he, hm'⟩ := leading_bit hx
  obtain ⟨hn, hf, hn'⟩ := leading_bit hy
  rcases lt_trichotomy e f with h | rfl | h
  · rw [compare_lt_iff_lt.2 h]
    exact .inl ⟨rfl, magnitude_lt hm (hn' (by omega)) h⟩
  · rw [compare_eq_iff_eq.2 rfl, Ordering.eq_then]
    have hpos : (0 : ℚ) < 2 ^ e := by positivity
    rcases lt_trichotomy m n with h | rfl | h
    · exact .inl ⟨compare_lt_iff_lt.2 h, mul_lt_mul_of_pos_right (Nat.cast_lt.2 h) hpos⟩
    · exact .inr (.inl ⟨compare_eq_iff_eq.2 rfl, rfl⟩)
    · exact .inr (.inr ⟨compare_gt_iff_gt.2 h, mul_lt_mul_of_pos_right (Nat.cast_lt.2 h) hpos⟩)
  · rw [compare_gt_iff_gt.2 h]
    exact .inr (.inr ⟨rfl, magnitude_lt hn (hm' (by omega)) h⟩)

/-- What comparing says of the order of two numbers without their signs. -/
theorem isLE_compare_iff {a b : Bool} (hx : Exact.of x = .finite a m e) (hy : Exact.of y = .finite b n f) :
    (((compare e f).then (compare m n)).isLE ↔ (m : ℚ) * 2 ^ e ≤ n * 2 ^ f) ∧
      (((compare e f).then (compare m n)).isGE ↔ (n : ℚ) * 2 ^ f ≤ m * 2 ^ e) := by
  rcases compare_cases hx hy with ⟨h, hlt⟩ | ⟨h, heq⟩ | ⟨h, hlt⟩
  · rw [h]
    exact ⟨iff_of_true rfl hlt.le, iff_of_false nofun hlt.not_ge⟩
  · rw [h]
    exact ⟨iff_of_true rfl heq.le, iff_of_true rfl heq.ge⟩
  · rw [h]
    exact ⟨iff_of_false nofun hlt.not_ge, iff_of_true rfl hlt.le⟩

end Exact

/-! ## The order of doubles -/

namespace Number

open Float.Model (UnpackedFloat)
open Exact

variable {x y z : Float}

theorem le_iff_compare : x ≤ y ↔ (x.toModel.unpack.compare y.toModel.unpack).any (·.isLE) = true := by
  change decide ((x.toModel.unpack.compare y.toModel.unpack).any (·.isLE) = true) = true ↔ _
  rw [decide_eq_true_eq]

/-- Finite doubles compare like the numbers that they denote. -/
theorem le_iff_of_finite {a b : Bool} {m n : ℕ} {e f : ℤ} (hx : Exact.of x = .finite a m e)
    (hy : Exact.of y = .finite b n f) : x ≤ y ↔
      (if a then -1 else 1) * ((m : ℚ) * 2 ^ e) ≤ (if b then -1 else 1) * (n * 2 ^ f) := by
  rw [le_iff_compare]
  obtain ⟨hle, hge⟩ := isLE_compare_iff hx hy
  rw [of_eq_ofUnpacked] at hx hy
  -- a zero has no significand to compare, so both kinds of it are cases of their own
  cases hu : x.toModel.unpack with
  | notANumber | infinity s => rw [hu] at hx; cases hx
  | zero s =>
    rw [hu] at hx
    obtain ⟨-, rfl, -⟩ := Exact.finite.inj hx
    cases hv : y.toModel.unpack with
    | notANumber | infinity t => rw [hv] at hy; cases hy
    | zero t =>
      rw [hv] at hy
      obtain ⟨-, rfl, -⟩ := Exact.finite.inj hy
      simp [UnpackedFloat.compare]
    | finite t n f hn =>
      rw [hv] at hy
      obtain ⟨rfl, rfl, rfl⟩ := Exact.finite.inj hy
      have hpos : (0 : ℚ) < n * 2 ^ f := by positivity
      cases t <;> simp [UnpackedFloat.compare, isMinus, hpos.le, hpos]
  | finite s m e hm =>
    rw [hu] at hx
    obtain ⟨rfl, rfl, rfl⟩ := Exact.finite.inj hx
    have hpos : (0 : ℚ) < m * 2 ^ e := by positivity
    cases hv : y.toModel.unpack with
    | notANumber | infinity t => rw [hv] at hy; cases hy
    | zero t =>
      rw [hv] at hy
      obtain ⟨-, rfl, -⟩ := Exact.finite.inj hy
      cases s <;> simp [UnpackedFloat.compare, isMinus, hpos.le, hpos]
    | finite t n f hn =>
      rw [hv] at hy
      obtain ⟨rfl, rfl, rfl⟩ := Exact.finite.inj hy
      have hpos' : (0 : ℚ) < n * 2 ^ f := by positivity
      cases s <;> cases t
      · simpa [UnpackedFloat.compare, isMinus] using hge
      · simpa [UnpackedFloat.compare, isMinus] using by linarith
      · simpa [UnpackedFloat.compare, isMinus] using by linarith
      · simpa [UnpackedFloat.compare, isMinus] using hle

/-- **Doubles compare like the numbers that they denote.** An infinity is beyond all on its side, and what is no
number is not compared. -/
theorem le_iff : x ≤ y ↔ (∃ p q, value? x = some p ∧ value? y = some q ∧ p ≤ q) ∨
    (Exact.of x = .infinite true ∧ Exact.of y ≠ .nan) ∨ (Exact.of y = .infinite false ∧ Exact.of x ≠ .nan) := by
  obtain ⟨u, hu⟩ : ∃ u, x.toModel.unpack = u := ⟨_, rfl⟩
  obtain ⟨v, hv⟩ : ∃ v, y.toModel.unpack = v := ⟨_, rfl⟩
  have hx := of_eq_ofUnpacked x
  have hy := of_eq_ofUnpacked y
  have hle := le_iff_compare (x := x) (y := y)
  rw [hu] at hx hle
  rw [hv] at hy hle
  -- an infinity is settled by its sign, and what is no number at once
  cases u with
  | notANumber => simp [hle, UnpackedFloat.compare, value?, hx, ofUnpacked, Exact.value?]
  | infinity s =>
    cases v with
    | notANumber => simp [hle, UnpackedFloat.compare, value?, hx, hy, ofUnpacked, Exact.value?]
    | infinity t =>
      cases s <;> cases t <;> simp [hle, UnpackedFloat.compare, value?, hx, hy, ofUnpacked, isMinus, Exact.value?] <;>
        decide
    | zero t | finite t =>
      cases s <;> simp [hle, UnpackedFloat.compare, value?, hx, hy, ofUnpacked, isMinus, Exact.value?]
  | zero s | finite s =>
    cases v with
    | notANumber => simp [hle, UnpackedFloat.compare, value?, hx, hy, ofUnpacked, Exact.value?]
    | infinity t =>
      cases s <;> cases t <;> simp [hle, UnpackedFloat.compare, value?, hx, hy, ofUnpacked, isMinus, Exact.value?]
    | zero t | finite t =>
      rw [le_iff_of_finite hx hy]
      simp [value?, hx, hy, ofUnpacked, Exact.value?]

theorem ne_nan_of_value? {q : ℚ} (h : value? x = some q) : Exact.of x ≠ .nan := by
  intro hx
  rw [value?, hx] at h
  cases h

theorem ne_nan_of_le (h : x ≤ y) : Exact.of x ≠ .nan ∧ Exact.of y ≠ .nan := by
  rcases le_iff.1 h with ⟨p, q, hp, hq, -⟩ | ⟨hx, hy⟩ | ⟨hy, hx⟩
  · exact ⟨ne_nan_of_value? hp, ne_nan_of_value? hq⟩
  · exact ⟨hx.trans_ne nofun, hy⟩
  · exact ⟨hx, hy.trans_ne nofun⟩

theorem le_trans (hxy : x ≤ y) (hyz : y ≤ z) : x ≤ z := by
  rcases le_iff.1 hxy with ⟨p, q, hp, hq, hpq⟩ | ⟨hx, -⟩ | ⟨hy, hx⟩
  · rcases le_iff.1 hyz with ⟨q', r, hq', hr, hqr⟩ | ⟨hy, -⟩ | ⟨hz, -⟩
    · obtain rfl := Option.some.inj (hq.symm.trans hq')
      exact le_iff.2 (.inl ⟨p, r, hp, hr, hpq.trans hqr⟩)
    · rw [value?, hy] at hq
      cases hq
    · exact le_iff.2 (.inr (.inr ⟨hz, ne_nan_of_value? hp⟩))
  · exact le_iff.2 (.inr (.inl ⟨hx, (ne_nan_of_le hyz).2⟩))
  · rcases le_iff.1 hyz with ⟨q, r, hq, -⟩ | ⟨hy', -⟩ | ⟨hz, -⟩
    · rw [value?, hy] at hq
      cases hq
    · cases hy.symm.trans hy'
    · exact le_iff.2 (.inr (.inr ⟨hz, hx⟩))

end Number

end GatedFormula
