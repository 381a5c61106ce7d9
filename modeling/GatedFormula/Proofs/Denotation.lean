/-
  The numbers that doubles denote, as rational numbers.
  - `Number.value?` is the number that a finite double denotes.
  - A double denotes a whole number exactly if it has no fraction, and then its whole part is that number:
    `Exact.value?_eq_natCast_iff`, `Position.ofNumber_of_value?`, `Key.index?_eq_some_iff`.
  - A position inside a text is the whole part of a number: `Position.clamped_of_value?`.
  - `Number.beq_minusOne`: no count is equal to minus one.
-/
import GatedFormula.Number.Position
import GatedFormula.Number.Word
import GatedFormula.Proofs.Equality
import GatedFormula.Value.Member

namespace GatedFormula

namespace Exact

/-- The number that an exact number is, if it is finite. -/
def value? : Exact → Option ℚ
  | .finite negative m e => some ((if negative then -1 else 1) * (m * 2 ^ e))
  | _ => none

variable {m n : ℕ} {e : ℤ} {negative : Bool}

/-- The whole part is what rounding down leaves. -/
theorem wholeMagnitude_eq_floor (m : ℕ) (e : ℤ) : wholeMagnitude m e = ⌊(m : ℚ) * 2 ^ e⌋₊ := by
  rw [wholeMagnitude]
  split
  · rename_i he
    lift e to ℕ using he
    have hcast : (m : ℚ) * 2 ^ (e : ℤ) = ((m * 2 ^ e : ℕ) : ℚ) := by push_cast; rfl
    rw [hcast, Nat.floor_natCast]
    simp
  · rename_i he
    obtain ⟨k, rfl⟩ : ∃ k : ℕ, e = -k := ⟨(-e).toNat, by omega⟩
    have hcast : (m : ℚ) * 2 ^ (-(k : ℤ)) = (m : ℚ) / ((2 ^ k : ℕ) : ℚ) := by
      rw [zpow_neg, zpow_natCast, div_eq_mul_inv]
      push_cast
      rfl
    rw [hcast, Nat.floor_div_eq_div, neg_neg, Int.toNat_natCast]
    simp

/-- Without a fraction the whole part is all. -/
theorem wholeMagnitude_of_isWhole (h : isWhole m e) : (wholeMagnitude m e : ℚ) = m * 2 ^ e := by
  rw [wholeMagnitude]
  split
  · rename_i he
    lift e to ℕ using he
    simp
  · rename_i he
    obtain ⟨k, rfl⟩ : ∃ k : ℕ, e = -k := ⟨(-e).toNat, by omega⟩
    have hdvd : twoTo k ∣ m := by
      rw [isWhole, Bool.or_eq_true, decide_eq_true_eq, beq_iff_eq, neg_neg, Int.toNat_natCast] at h
      exact Nat.dvd_of_mod_eq_zero (h.resolve_left he)
    rw [neg_neg, Int.toNat_natCast, Nat.cast_div hdvd (by simp), zpow_neg, zpow_natCast, div_eq_mul_inv]
    simp

theorem isWhole_of_eq (h : (n : ℚ) = m * 2 ^ e) : isWhole m e := by
  rw [isWhole, Bool.or_eq_true, decide_eq_true_eq, beq_iff_eq]
  rw [or_iff_not_imp_left]
  intro he
  obtain ⟨k, rfl⟩ : ∃ k : ℕ, e = -k := ⟨(-e).toNat, by omega⟩
  rw [zpow_neg, zpow_natCast, eq_mul_inv_iff_mul_eq₀ (by positivity)] at h
  have hm : n * 2 ^ k = m := by exact_mod_cast h
  rw [neg_neg, Int.toNat_natCast, ← hm]
  exact Nat.mul_mod_left n (2 ^ k)

theorem wholeMagnitude_of_eq (h : (n : ℚ) = m * 2 ^ e) : wholeMagnitude m e = n := by
  rw [wholeMagnitude_eq_floor, ← h, Nat.floor_natCast]

/-- **A number is a count** if it has no fraction, is not below zero, and its whole part is the count. -/
theorem value?_eq_natCast_iff :
    (Exact.finite negative m e).value? = some (n : ℚ) ↔
      isWhole m e ∧ (negative = true → m = 0) ∧ wholeMagnitude m e = n := by
  rw [value?, Option.some.injEq]
  constructor
  · intro h
    cases negative with
    | false =>
      rw [if_neg Bool.false_ne_true, one_mul] at h
      exact ⟨isWhole_of_eq h.symm, nofun, wholeMagnitude_of_eq h.symm⟩
    | true =>
      have hpos : (0 : ℚ) ≤ m * 2 ^ e := by positivity
      have hn : (0 : ℚ) ≤ n := Nat.cast_nonneg n
      rw [if_pos rfl, neg_one_mul] at h
      have hzero : (m : ℚ) * 2 ^ e = 0 := by linarith
      have hn0 : (n : ℚ) = m * 2 ^ e := by linarith
      have hm : m = 0 := by
        rcases mul_eq_zero.1 hzero with hm | he
        · exact_mod_cast hm
        · exact absurd he (by positivity)
      exact ⟨isWhole_of_eq hn0, fun _ => hm, wholeMagnitude_of_eq hn0⟩
  · rintro ⟨hw, hs, rfl⟩
    rw [wholeMagnitude_of_isWhole hw]
    cases negative with
    | false => rw [if_neg Bool.false_ne_true, one_mul]
    | true => simp [hs rfl]

end Exact

/-- The number that a double denotes, if it is finite. -/
def Number.value? (x : Float) : Option ℚ := (Exact.of x).value?

variable {x : Float} {n i : ℕ}

theorem Number.value?_eq_natCast_iff : Number.value? x = some (n : ℚ) ↔
    ∃ negative m e, Exact.of x = .finite negative m e ∧
      Exact.isWhole m e ∧ (negative = true → m = 0) ∧ Exact.wholeMagnitude m e = n := by
  rw [value?]
  constructor
  · intro h
    cases hx : Exact.of x with
    | nan | infinite => rw [hx] at h; cases h
    | finite negative m e => exact ⟨negative, m, e, rfl, Exact.value?_eq_natCast_iff.1 (hx ▸ h)⟩
  · rintro ⟨negative, m, e, hx, h⟩
    rw [hx]
    exact Exact.value?_eq_natCast_iff.2 h

/-- A double that denotes a count gives the position of that count. -/
theorem Position.ofNumber_of_value? (h : Number.value? x = some (n : ℚ)) : Position.ofNumber x = .index n := by
  obtain ⟨negative, m, e, hx, -, hs, hn⟩ := Number.value?_eq_natCast_iff.1 h
  simp only [Position.ofNumber, Number.truncated?, hx, hn, Option.getD_some]
  cases negative with
  | false => rfl
  | true =>
    have hzero : n = 0 := by
      rw [← hn, hs rfl, Exact.wholeMagnitude]
      simp
    simp [hzero]

/-- A position inside a text is the whole part of the number; what is below zero counts as zero. -/
theorem Position.clamped_of_value? {q : ℚ} (h : Number.value? x = some q) (length : ℕ) :
    (Position.ofNumber x).clamped length = min ⌊q⌋₊ length := by
  rw [Number.value?] at h
  cases hx : Exact.of x with
  | nan | infinite => rw [hx] at h; cases h
  | finite negative m e =>
    rw [hx, Exact.value?, Option.some.injEq] at h
    have hpos : (0 : ℚ) ≤ m * 2 ^ e := by positivity
    simp only [Position.ofNumber, Number.truncated?, hx, Option.getD_some, Position.clamped]
    congr 1
    cases negative with
    | false =>
      rw [if_neg Bool.false_ne_true, one_mul] at h
      rw [if_neg Bool.false_ne_true, Int.toNat_natCast, Exact.wholeMagnitude_eq_floor, h]
    | true =>
      rw [if_pos rfl, neg_one_mul] at h
      rw [if_pos rfl, Nat.floor_of_nonpos (by linarith)]
      omega

/-- **A number is an index** if it denotes a count up to `2 ^ 64`; the last one counts as the largest index. -/
theorem Key.index?_eq_some_iff : (Key.number x).index? = some i ↔
    ∃ n : ℕ, Number.value? x = some (n : ℚ) ∧ n ≤ 2 ^ 64 ∧ i = min n Key.lastIndex := by
  constructor
  · intro h
    cases hx : Exact.of x with
    | nan | infinite => simp [index?, hx] at h
    | finite negative m e =>
      simp only [index?, hx, Option.ite_none_right_eq_some, Bool.and_eq_true, Bool.or_eq_true, Bool.not_eq_true',
        beq_iff_eq, decide_eq_true_eq, Option.some.injEq] at h
      obtain ⟨⟨⟨hw, hs⟩, hle⟩, hi⟩ := h
      refine ⟨_, Number.value?_eq_natCast_iff.2 ⟨negative, m, e, hx, hw, fun hn => ?_, rfl⟩, hle, hi.symm⟩
      exact hs.resolve_left (by simp [hn])
  · rintro ⟨n, hv, hle, rfl⟩
    obtain ⟨negative, m, e, hx, hw, hs, rfl⟩ := Number.value?_eq_natCast_iff.1 hv
    have hsign : (!negative || m == 0) = true := by
      cases negative with
      | false => rfl
      | true => simp [hs rfl]
    simpa [index?, hx, hw, hsign] using hle

/-! ## Counts and minus one -/

namespace Number

open Float.Model (UnpackedFloat Format)
open Float.Model.UnpackedFloat (packComponents unpackSign unpack pack Sign)

theorem unpackSign_packComponents {spec : Format} (s : Sign) (e : BitVec spec.exponentBits)
    (m : BitVec spec.mantissaBitsWithoutImplicit) : unpackSign (packComponents spec s e m) = s.toBitVec := by
  ext i hi
  have hz : i = 0 := by omega
  subst hz
  simp [unpackSign, packComponents, BitVec.getLsbD_append, BitVec.getElem_append]

/-- What has no minus sign is packed without one. -/
theorem unpackSign_pack {spec : Format} {u : UnpackedFloat} (h : u.abs = u) : unpackSign (pack spec u) = 0 := by
  cases u with
  | notANumber => exact unpackSign_packComponents ..
  | infinity s =>
    obtain rfl : Sign.positive = s := UnpackedFloat.infinity.inj h
    exact unpackSign_packComponents ..
  | zero s =>
    obtain rfl : Sign.positive = s := UnpackedFloat.zero.inj h
    exact unpackSign_packComponents ..
  | finite s m e hm =>
    obtain rfl : Sign.positive = s := (UnpackedFloat.finite.inj h).1
    rw [pack]
    split
    · exact unpackSign_packComponents ..
    · split <;> exact unpackSign_packComponents ..

theorem abs_unpack {spec : Format} {b : BitVec spec.numBits} (h : unpackSign b = 0) :
    (unpack spec b).abs = unpack spec b := by
  have hs : Sign.ofBitVec (unpackSign b) = .positive := by rw [h]; rfl
  rw [unpack, hs]
  split
  · split <;> rfl
  · split
    · split <;> rfl
    · rfl

theorem magnitudeBits_le (m : ℕ) (e : ℤ) : Exact.magnitudeBits m e ≤ Exact.infiniteBits := by
  rw [Exact.magnitudeBits]
  split
  · exact Nat.zero_le _
  · simp only
    split
    · exact le_rfl
    · exact min_le_left _ _

/-- The double of a count has no minus sign. -/
theorem abs_ofWhole (n : ℕ) : (ofWhole n).toModel.unpack.abs = (ofWhole n).toModel.unpack := by
  have hbits : ofWhole n = Float.ofBits (UInt64.ofNat (Exact.magnitudeBits n 0)) := by
    have hn : ¬ (n : ℤ) < 0 := by omega
    simp [ofWhole, Exact.toFloat, hn]
  have hlt : Exact.magnitudeBits n 0 < 2 ^ 63 := (magnitudeBits_le n 0).trans_lt (by decide)
  rw [hbits]
  refine abs_unpack (unpackSign_pack (abs_unpack ?_))
  apply BitVec.eq_of_toNat_eq
  simp only [unpackSign, BitVec.toNat_cast, BitVec.extractLsb_toNat, UInt64.toNat_toBitVec, UInt64.toNat_ofNat',
    Nat.shiftRight_eq_div_pow, BitVec.ofNat_eq_ofNat, BitVec.toNat_ofNat]
  omega

/-- No count is equal to minus one. -/
theorem beq_minusOne (n : ℕ) : (ofWhole n == ofWhole (-1)) = false := by
  rw [← Bool.not_eq_true, beq_iff]
  obtain ⟨m, e, hm, hone⟩ : ∃ m e hm, (ofWhole (-1)).toModel.unpack = .finite .negative m e hm := ⟨_, _, _, rfl⟩
  rintro (⟨s, t, -, h⟩ | ⟨h, -⟩)
  · rw [hone] at h
    cases h
  · have ha := abs_ofWhole n
    rw [h, hone] at ha
    cases ha

end Number

end GatedFormula
