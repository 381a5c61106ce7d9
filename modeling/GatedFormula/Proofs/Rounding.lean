/-
  Rounding of whole numbers to doubles.
  - `Exact.of_bits` and `Exact.value?_fields`: what a double denotes whose sign, exponent and significand are given.
  - `Exact.roundedQuotient_nearest`: a rounded quotient gives the nearest multiple of the divisor.
  - `Exact.grid`: doubles from a power of two on are multiples of a smaller one, so there are none between these.
  - `Number.IsNearest` says which double is the nearest one to a number. For a whole number of at most 64 bits it is
    `Number.ofWhole`, which is the number itself up to 53 bits: `Number.isNearest_ofWhole`, `Number.value?_ofWhole`.
-/
import GatedFormula.Proofs.Denotation

namespace GatedFormula

namespace Exact

/-! ## Doubles by their fields -/

open Float.Model (Format)
open Float.Model.UnpackedFloat (isNaNBits unpackExponent pack unpack pack_unpack)

theorem toNat_unpackExponent (b : BitVec Format.binary64.numBits) :
    (unpackExponent b).toNat = b.toNat / 2 ^ 52 % 2048 := by
  simp only [unpackExponent, BitVec.toNat_cast, BitVec.extractLsb_toNat, Nat.shiftRight_eq_div_pow]

/-- Bits that are not all ones in the exponent are kept. -/
theorem toBits_ofBits {b : ℕ} (hb : b < 2 ^ 64) (he : b / 2 ^ 52 % 2048 ≠ 2047) :
    (Float.ofBits (UInt64.ofNat b)).toBits.toNat = b := by
  have hnat : (UInt64.ofNat b).toNat = b := UInt64.toNat_ofNat_of_lt' hb
  have hnan : @isNaNBits Format.binary64 (UInt64.ofNat b).toBitVec = false := by
    rw [isNaNBits, decide_eq_false_iff_not]
    rintro ⟨h, -⟩
    have hexp := toNat_unpackExponent (UInt64.ofNat b).toBitVec
    rw [h, UInt64.toNat_toBitVec, hnat] at hexp
    exact he hexp.symm
  change (UInt64.ofBitVec (pack Format.binary64 (unpack Format.binary64 (UInt64.ofNat b).toBitVec))).toNat = b
  rw [pack_unpack, hnan, if_neg Bool.false_ne_true]
  exact hnat

/-- What a double is, by its sign, its exponent and its fraction. -/
theorem of_bits {negative : Bool} {biased fraction b : ℕ} (hlt : biased < 2047) (hf : fraction < 2 ^ 52)
    (hb : b = biased * 2 ^ 52 + fraction + if negative then 2 ^ 63 else 0) :
    Exact.of (Float.ofBits (UInt64.ofNat b)) =
      if biased = 0 then .finite negative fraction (-1074)
      else .finite negative (2 ^ 52 + fraction) (biased - 1075) := by
  have hrange : b < 2 ^ 64 ∧ b / 2 ^ 52 % 2048 = biased ∧ b % 2 ^ 52 = fraction := by
    cases negative <;> simp only [if_true, Bool.false_eq_true, if_false] at hb <;> omega
  obtain ⟨hb64, hbiased, hfraction⟩ := hrange
  have hsign : decide (2 ^ 63 ≤ b) = negative := by
    cases negative with
    | false =>
      rw [if_neg Bool.false_ne_true] at hb
      exact decide_eq_false (by omega)
    | true =>
      rw [if_pos rfl] at hb
      exact decide_eq_true (by omega)
  rw [Exact.of, toBits_ofBits hb64 (hbiased.trans_ne hlt.ne)]
  simp only [twoTo, Nat.pow_eq, hbiased, hfraction, hsign, if_neg hlt.ne]

theorem of_fields {negative : Bool} {biased fraction b : ℕ} (hpos : 0 < biased) (hlt : biased < 2047)
    (hf : fraction < 2 ^ 52) (hb : b = biased * 2 ^ 52 + fraction + if negative then 2 ^ 63 else 0) :
    Exact.of (Float.ofBits (UInt64.ofNat b)) = .finite negative (2 ^ 52 + fraction) (biased - 1075) := by
  rw [of_bits hlt hf hb, if_neg hpos.ne']

/-- A significand of fifty-three bits and an exponent in range are what the bits next to each other denote. -/
theorem value?_normal {negative : Bool} {m : ℕ} {e : ℤ} (hm : 2 ^ 52 ≤ m) (hm' : m < 2 ^ 53) (he : -1074 ≤ e)
    (he' : e ≤ 971) :
    (Exact.of (Float.ofBits (UInt64.ofNat ((e + 1074).toNat * 2 ^ 52 + m + if negative then 2 ^ 63 else 0)))).value? =
      some ((if negative then -1 else 1) * ((m : ℚ) * 2 ^ e)) := by
  obtain ⟨n, rfl⟩ : ∃ n : ℕ, e = n - 1074 := ⟨(e + 1074).toNat, by omega⟩
  have hn : ((n : ℤ) - 1074 + 1074).toNat = n := by omega
  have hsplit : n * 2 ^ 52 + m = (n + 1) * 2 ^ 52 + (m - 2 ^ 52) := by omega
  rw [hn, hsplit, of_fields (Nat.succ_pos n) (by omega) (by omega) rfl, value?, Nat.add_sub_cancel' hm]
  congr 4
  push_cast
  ring

/-- The next significand has one bit only and the next exponent. -/
theorem value?_fields {negative : Bool} {m : ℕ} {e : ℤ} (hm : 2 ^ 52 ≤ m) (hm' : m ≤ 2 ^ 53) (he : -1074 ≤ e)
    (he' : e ≤ 970) :
    (Exact.of (Float.ofBits (UInt64.ofNat ((e + 1074).toNat * 2 ^ 52 + m + if negative then 2 ^ 63 else 0)))).value? =
      some ((if negative then -1 else 1) * ((m : ℚ) * 2 ^ e)) := by
  rcases hm'.lt_or_eq with hm' | rfl
  · exact value?_normal hm hm' he (by omega)
  · obtain ⟨n, rfl⟩ : ∃ n : ℕ, e = n - 1074 := ⟨(e + 1074).toNat, by omega⟩
    have hn : ((n : ℤ) - 1074 + 1074).toNat = n := by omega
    -- the last significand carries over to the exponent
    have hsplit : n * 2 ^ 52 + 2 ^ 53 = (n + 2) * 2 ^ 52 + 0 := by omega
    rw [hn, hsplit, of_fields (Nat.succ_pos _) (by omega) (by omega) rfl, value?, add_zero]
    congr 2
    have hexp : ((n + 2 : ℕ) : ℤ) - 1075 = n - 1074 + 1 := by push_cast; ring
    rw [hexp, zpow_add_one₀ two_ne_zero]
    push_cast
    ring

/-! ## Rounding -/

theorem roundedQuotient_cases (n d : ℕ) :
    (2 * (n % d) < d ∧ roundedQuotient n d = n / d) ∨ (d < 2 * (n % d) ∧ roundedQuotient n d = n / d + 1) ∨
      (2 * (n % d) = d ∧ roundedQuotient n d = n / d + n / d % 2) := by
  unfold roundedQuotient
  simp only
  split
  · exact .inl ⟨‹_›, rfl⟩
  · split
    · exact .inr (.inl ⟨‹_›, rfl⟩)
    · exact .inr (.inr ⟨by omega, rfl⟩)

/-- How far multiples are from a number: the two beside it by the remainder and by what it lacks, all others by more. -/
theorem abs_multiple_sub {d q t : ℤ} (ht : 0 ≤ t) (htd : t < d) (j : ℤ) :
    (j = q ∧ |j * d - (q * d + t)| = t) ∨ (j = q + 1 ∧ |j * d - (q * d + t)| = d - t) ∨
      (j ≠ q ∧ j ≠ q + 1 ∧ t < |j * d - (q * d + t)| ∧ (0 < t → d - t < |j * d - (q * d + t)|)) := by
  have hdiff : j * d - (q * d + t) = (j - q) * d - t := by ring
  rw [hdiff]
  rcases lt_trichotomy j q with h | rfl | h
  · right; right
    have hle : (j - q) * d ≤ -d := by nlinarith
    rw [abs_of_neg (by linarith)]
    exact ⟨h.ne, by omega, by linarith, fun _ => by linarith⟩
  · left
    rw [sub_self, zero_mul, zero_sub, abs_neg, abs_of_nonneg ht]
    exact ⟨rfl, rfl⟩
  · rcases (Int.add_one_le_iff.2 h).eq_or_lt with rfl | h
    · right; left
      rw [add_sub_cancel_left, one_mul, abs_of_pos (by linarith)]
      exact ⟨rfl, rfl⟩
    · right; right
      have hle : 2 * d ≤ (j - q) * d := by nlinarith
      rw [abs_of_pos (by linarith)]
      exact ⟨by omega, h.ne', by linarith, fun _ => by linarith⟩

/-- **A rounded quotient gives the nearest multiple**, and of two the one that is taken an even number of times. -/
theorem roundedQuotient_nearest {n d : ℕ} (hd : 0 < d) {j : ℤ} (hj : j ≠ roundedQuotient n d) :
    |(roundedQuotient n d * d - n : ℤ)| < |(j * d - n : ℤ)| ∨
      |(roundedQuotient n d * d - n : ℤ)| = |(j * d - n : ℤ)| ∧ Even (roundedQuotient n d) := by
  have hn : (n : ℤ) = (n / d : ℕ) * d + (n % d : ℕ) := by exact_mod_cast (Nat.div_add_mod' n d).symm
  have hdist := abs_multiple_sub (q := (n / d : ℕ)) (Int.natCast_nonneg (n % d)) (Int.ofNat_lt.2 (Nat.mod_lt n hd))
  have hcases := roundedQuotient_cases n d
  rw [← hn] at hdist
  have hr := hdist (roundedQuotient n d)
  have hj' := hdist j
  clear hdist hn
  generalize n / d = q at *
  generalize n % d = t at *
  generalize roundedQuotient n d = r at *
  generalize |(r * d - n : ℤ)| = x at *
  generalize |(j * d - n : ℤ)| = y at *
  rcases hcases with ⟨h, rfl⟩ | ⟨h, rfl⟩ | ⟨h, rfl⟩
  · left
    omega
  · left
    omega
  · have heven : Even (q + q % 2) := by
      rw [Nat.even_iff]
      omega
    have hle : x ≤ y := by omega
    exact hle.lt_or_eq.imp_right fun h => ⟨h, heven⟩

/-! ## Whole numbers -/

variable {m : ℕ}

theorem log2_lt {k : ℕ} (hm : m ≠ 0) (h : m < 2 ^ k) : m.log2 < k := (Nat.log2_lt hm).2 h

/-- A significand of fifty-three bits is filled up with zeros. -/
theorem magnitudeBits_of_lt (hm : m ≠ 0) (h : m < 2 ^ 53) :
    magnitudeBits m 0 = ((m.log2 : ℤ) - 52 + 1074).toNat * 2 ^ 52 + m * 2 ^ (52 - m.log2) := by
  have hlog := log2_lt hm h
  have hunit : max ((0 : ℤ) + m.log2 - 52) (-1074) = m.log2 - 52 := by omega
  have hshift : ((0 : ℤ) - (m.log2 - 52)).toNat = 52 - m.log2 := by omega
  have hlt : m * 2 ^ (52 - m.log2) < 2 ^ 53 := by
    calc m * 2 ^ (52 - m.log2) < 2 ^ (m.log2 + 1) * 2 ^ (52 - m.log2) :=
          Nat.mul_lt_mul_of_pos_right Nat.lt_log2_self (by positivity)
      _ = 2 ^ 53 := by rw [← pow_add]; congr 1; omega
  rw [magnitudeBits, if_neg hm]
  simp only [hunit]
  rw [if_neg (by omega), if_pos (by omega), hshift]
  refine min_eq_right ?_
  change _ * 2 ^ 52 + m * 2 ^ (52 - m.log2) ≤ 2047 * 2 ^ 52
  omega

/-- A rounded significand has fifty-three bits, or is the next number. -/
theorem roundedQuotient_log2 (h : 2 ^ 53 ≤ m) :
    2 ^ 52 ≤ roundedQuotient m (2 ^ (m.log2 - 52)) ∧ roundedQuotient m (2 ^ (m.log2 - 52)) ≤ 2 ^ 53 := by
  have hm : m ≠ 0 := by omega
  have hlog : 53 ≤ m.log2 := (Nat.le_log2 hm).2 h
  have hlow : 2 ^ 52 ≤ m / 2 ^ (m.log2 - 52) := by
    rw [Nat.le_div_iff_mul_le (by positivity), ← pow_add, Nat.add_sub_cancel' (by omega)]
    exact Nat.log2_self_le hm
  have hhigh : m / 2 ^ (m.log2 - 52) < 2 ^ 53 := by
    rw [Nat.div_lt_iff_lt_mul (by positivity), ← pow_add]
    refine Nat.lt_log2_self.trans_eq ?_
    congr 1
    omega
  rcases roundedQuotient_cases m (2 ^ (m.log2 - 52)) with ⟨-, hr⟩ | ⟨-, hr⟩ | ⟨-, hr⟩ <;> omega

/-- A longer one is rounded to fifty-three bits. -/
theorem magnitudeBits_of_le (h : 2 ^ 53 ≤ m) (h' : m < 2 ^ 64) :
    magnitudeBits m 0 = (m.log2 - 52 + 1074) * 2 ^ 52 + roundedQuotient m (2 ^ (m.log2 - 52)) := by
  have hm : m ≠ 0 := by omega
  have hlog : 53 ≤ m.log2 := (Nat.le_log2 hm).2 h
  have hlog' := log2_lt hm h'
  have hunit : max ((0 : ℤ) + m.log2 - 52) (-1074) = (m.log2 - 52 : ℕ) := by omega
  have hshift : (((m.log2 - 52 : ℕ) : ℤ) - 0).toNat = m.log2 - 52 := by omega
  have hbits : (((m.log2 - 52 : ℕ) : ℤ) + 1074).toNat = m.log2 - 52 + 1074 := by omega
  rw [magnitudeBits, if_neg hm]
  simp only [hunit]
  rw [if_neg (by omega), if_neg (by omega), hshift, hbits]
  refine min_eq_right ?_
  have hle := (roundedQuotient_log2 h).2
  change (_ + 1074) * 2 ^ 52 + roundedQuotient m (2 ^ (m.log2 - 52)) ≤ 2047 * 2 ^ 52
  omega

/-- The significand of a double has no more than fifty-three bits. -/
theorem significand_lt {x : Float} {negative : Bool} {e : ℤ} (h : Exact.of x = .finite negative m e) :
    m < 2 ^ 53 := by
  rw [Exact.of] at h
  split at h
  · split at h <;> cases h
  · have hlt := Nat.mod_lt x.toBits.toNat (Nat.two_pow_pos 52)
    split at h
    · obtain ⟨-, rfl, -⟩ := Exact.finite.inj h
      exact hlt.trans (by decide)
    · obtain ⟨-, rfl, -⟩ := Exact.finite.inj h
      change 2 ^ 52 + _ % 2 ^ 52 < 2 ^ 53
      omega

/-- What a double denotes is a multiple of a power of two, or less than that power with fifty-two bits. -/
theorem grid {x : Float} {q : ℚ} (h : (Exact.of x).value? = some q) (k : ℕ) :
    (∃ j : ℤ, q = j * 2 ^ k) ∨ |q| < 2 ^ (52 + k) := by
  cases hx : Exact.of x with
  | nan | infinite => rw [hx] at h; cases h
  | finite negative m e =>
    rw [hx, value?, Option.some.injEq] at h
    subst h
    rcases le_or_gt (k : ℤ) e with hk | hk
    · left
      obtain ⟨i, rfl⟩ : ∃ i : ℕ, e = i + k := ⟨(e - k).toNat, by omega⟩
      refine ⟨(if negative then -1 else 1) * (m * 2 ^ i), ?_⟩
      rw [zpow_add₀ two_ne_zero, zpow_natCast, zpow_natCast]
      push_cast
      ring
    · right
      have hm : (m : ℚ) < 2 ^ 53 := by exact_mod_cast significand_lt hx
      have habs : |(if negative then -1 else 1 : ℚ)| = 1 := by cases negative <;> simp
      rw [abs_mul, habs, one_mul, abs_of_nonneg (by positivity)]
      calc (m : ℚ) * 2 ^ e < 2 ^ 53 * 2 ^ e := by gcongr
        _ ≤ 2 ^ 53 * 2 ^ ((k : ℤ) - 1) := by gcongr; norm_num; omega
        _ = 2 ^ (52 + k) := by
          rw [zpow_sub_one₀ two_ne_zero, zpow_natCast, pow_add]
          ring

/-- Where all numbers are such, a rounded significand gives the nearest one. -/
theorem rounded_nearest {k : ℕ} (hm : 2 ^ (52 + k) ≤ m) {q : ℚ}
    (hq : (∃ j : ℤ, q = j * 2 ^ k) ∨ |q| < 2 ^ (52 + k))
    (hne : q ≠ roundedQuotient m (2 ^ k) * 2 ^ k) :
    |(roundedQuotient m (2 ^ k) * 2 ^ k - m : ℚ)| < |q - m| ∨
      |(roundedQuotient m (2 ^ k) * 2 ^ k - m : ℚ)| = |q - m| ∧ Even (roundedQuotient m (2 ^ k)) := by
  have hd : 0 < 2 ^ k := Nat.two_pow_pos k
  rcases hq with ⟨j, rfl⟩ | hq
  · have hj : j ≠ roundedQuotient m (2 ^ k) := by
      rintro rfl
      exact hne (by push_cast; rfl)
    exact_mod_cast roundedQuotient_nearest hd hj
  · left
    have hle : |(roundedQuotient m (2 ^ k) * 2 ^ k - m : ℚ)| ≤ |(2 ^ 52 * 2 ^ k - m : ℚ)| := by
      have h : |(roundedQuotient m (2 ^ k) * (2 ^ k : ℕ) - m : ℤ)| ≤ |(2 ^ 52 * (2 ^ k : ℕ) - m : ℤ)| := by
        by_cases hj : (2 ^ 52 : ℤ) = roundedQuotient m (2 ^ k)
        · rw [hj]
        · exact (roundedQuotient_nearest hd hj).elim le_of_lt fun h => h.1.le
      exact_mod_cast h
    have hm : (2 ^ 52 * 2 ^ k : ℚ) ≤ m := by
      rw [← pow_add]
      exact_mod_cast hm
    rw [pow_add] at hq
    calc |(roundedQuotient m (2 ^ k) * 2 ^ k - m : ℚ)| ≤ |(2 ^ 52 * 2 ^ k - m : ℚ)| := hle
      _ = m - 2 ^ 52 * 2 ^ k := by rw [abs_of_nonpos (by linarith), neg_sub]
      _ < m - |q| := by linarith
      _ ≤ |q - m| := by
        rw [abs_sub_comm]
        linarith [abs_sub_abs_le_abs_sub (m : ℚ) q, le_abs_self (m : ℚ)]

end Exact

namespace Number

open Exact

/-- **A double is the nearest one to a number** if every other one is further away, or as far and it is the one of the
two whose last bit is zero. -/
def IsNearest (x : Float) (q : ℚ) : Prop :=
  ∃ r, value? x = some r ∧ ∀ y r', value? y = some r' → r' ≠ r →
    |r - q| < |r' - q| ∨ |r - q| = |r' - q| ∧ Even x.toBits.toNat

variable {n : ℤ}

/-- The sign of a whole number that a double keeps. -/
def signOf (n : ℤ) : ℚ := if decide (n < 0) then -1 else 1

theorem signOf_eq (n : ℤ) : signOf n = ((if n < 0 then -1 else 1 : ℤ) : ℚ) := by
  rw [signOf]
  split <;> simp_all

theorem abs_signOf (n : ℤ) : |signOf n| = 1 := by
  rw [signOf]
  split <;> simp

theorem signOf_mul_self (n : ℤ) : signOf n * signOf n = 1 := by
  rw [← abs_mul_abs_self, abs_signOf, one_mul]

theorem signOf_mul_natAbs (n : ℤ) : signOf n * n.natAbs = n := by
  rw [signOf]
  split
  · rename_i h
    rw [neg_one_mul, Nat.cast_natAbs, abs_of_neg (of_decide_eq_true h)]
    push_cast
    ring
  · rename_i h
    rw [one_mul, Nat.cast_natAbs, abs_of_nonneg (not_lt.1 (mt decide_eq_true h))]

/-- **A whole number of at most fifty-three bits is its double.** -/
theorem value?_ofWhole (h : n.natAbs < 2 ^ 53) : value? (ofWhole n) = some (n : ℚ) := by
  rcases eq_or_ne n 0 with rfl | hn
  · have hzero : Exact.of (ofWhole 0) = .finite false 0 (-1074) := by decide
    rw [value?, hzero, Exact.value?, Nat.cast_zero, zero_mul, mul_zero, Int.cast_zero]
  · have hm : n.natAbs ≠ 0 := Int.natAbs_ne_zero.2 hn
    have hlog := log2_lt hm h
    have hlow : 2 ^ 52 ≤ n.natAbs * 2 ^ (52 - n.natAbs.log2) := by
      calc 2 ^ 52 = 2 ^ n.natAbs.log2 * 2 ^ (52 - n.natAbs.log2) := by rw [← pow_add]; congr 1; omega
        _ ≤ _ := Nat.mul_le_mul_right _ (Nat.log2_self_le hm)
    have hhigh : n.natAbs * 2 ^ (52 - n.natAbs.log2) ≤ 2 ^ 53 := by
      calc n.natAbs * 2 ^ (52 - n.natAbs.log2) ≤ 2 ^ (n.natAbs.log2 + 1) * 2 ^ (52 - n.natAbs.log2) :=
            Nat.mul_le_mul_right _ Nat.lt_log2_self.le
        _ = 2 ^ 53 := by rw [← pow_add]; congr 1; omega
    rw [value?, ofWhole, toFloat, magnitudeBits_of_lt hm h]
    refine (value?_fields hlow hhigh (by omega) (by omega)).trans ?_
    have hexp : ((n.natAbs * 2 ^ (52 - n.natAbs.log2) : ℕ) : ℚ) * 2 ^ ((n.natAbs.log2 : ℤ) - 52) = n.natAbs := by
      have hneg : (n.natAbs.log2 : ℤ) - 52 = -((52 - n.natAbs.log2 : ℕ) : ℤ) := by omega
      rw [hneg, zpow_neg, zpow_natCast, Nat.cast_mul, Nat.cast_pow, Nat.cast_ofNat,
        mul_inv_cancel_right₀ (by positivity)]
    rw [hexp]
    exact congrArg some (signOf_mul_natAbs n)

/-- A longer one is a double with a rounded significand. -/
theorem value?_ofWhole_of_le (hge : 2 ^ 53 ≤ n.natAbs) (h : n.natAbs < 2 ^ 64) :
    value? (ofWhole n) = some (signOf n *
        (roundedQuotient n.natAbs (2 ^ (n.natAbs.log2 - 52)) * 2 ^ (n.natAbs.log2 - 52))) ∧
      (Even (roundedQuotient n.natAbs (2 ^ (n.natAbs.log2 - 52))) → Even (ofWhole n).toBits.toNat) := by
  obtain ⟨hlow, hhigh⟩ := roundedQuotient_log2 hge
  have hlog' := log2_lt (by omega) h
  have hbits : ofWhole n = Float.ofBits (UInt64.ofNat ((n.natAbs.log2 - 52 + 1074) * 2 ^ 52 +
      roundedQuotient n.natAbs (2 ^ (n.natAbs.log2 - 52)) + if decide (n < 0) then 2 ^ 63 else 0)) := by
    rw [ofWhole, toFloat, magnitudeBits_of_le hge h]
    rfl
  rw [hbits]
  constructor
  · have hunit : (((n.natAbs.log2 - 52 : ℕ) : ℤ) + 1074).toNat = n.natAbs.log2 - 52 + 1074 := by omega
    have hvalue := @value?_fields (decide (n < 0)) _ (n.natAbs.log2 - 52 : ℕ) hlow hhigh (by omega) (by omega)
    rwa [hunit, zpow_natCast] at hvalue
  · intro heven
    rw [Nat.even_iff] at heven ⊢
    rw [toBits_ofBits (by split <;> omega) (by split <;> omega)]
    split <;> omega

/-- **The double of a whole number is the nearest one.** -/
theorem isNearest_ofWhole (h : n.natAbs < 2 ^ 64) : IsNearest (ofWhole n) n := by
  rcases lt_or_ge n.natAbs (2 ^ 53) with hlt | hge
  · refine ⟨n, value?_ofWhole hlt, fun y r _ hr => .inl ?_⟩
    rw [sub_self, abs_zero, abs_pos]
    exact sub_ne_zero.2 hr
  · obtain ⟨hvalue, heven⟩ := value?_ofWhole_of_le hge h
    have hself : 2 ^ (52 + (n.natAbs.log2 - 52)) ≤ n.natAbs := by
      rw [Nat.add_sub_cancel' ((Nat.le_log2 (by omega)).2 (by omega))]
      exact Nat.log2_self_le (by omega)
    -- everything is compared without the sign
    have hdist (a : ℚ) : |signOf n * a - n| = |a - n.natAbs| := by
      rw [← signOf_mul_natAbs, ← mul_sub, abs_mul, abs_signOf, one_mul]
    refine ⟨_, hvalue, fun y r hy hr => ?_⟩
    obtain ⟨a, rfl⟩ : ∃ a, r = signOf n * a := ⟨signOf n * r, by rw [← mul_assoc, signOf_mul_self, one_mul]⟩
    have hgrid : (∃ j : ℤ, a = j * 2 ^ (n.natAbs.log2 - 52)) ∨ |a| < 2 ^ (52 + (n.natAbs.log2 - 52)) := by
      rcases grid hy (n.natAbs.log2 - 52) with ⟨j, hj⟩ | hsmall
      · refine .inl ⟨(if n < 0 then -1 else 1) * j, ?_⟩
        calc a = signOf n * (signOf n * a) := by rw [← mul_assoc, signOf_mul_self, one_mul]
          _ = _ := by rw [hj, signOf_eq]; push_cast; ring
      · exact .inr (by rwa [abs_mul, abs_signOf, one_mul] at hsmall)
    rw [hdist, hdist]
    exact (rounded_nearest hself hgrid fun ha => hr (congrArg _ ha)).imp_right fun h => ⟨h.1, heven h.2⟩

end Number

end GatedFormula
