/-
  Words of 32 bits are residues modulo `2 ^ 32`.
  - `Number.residue` is the residue of the whole part of a number, and `Number.balanced` its representative around zero.
  - `Number.toNat_word` and `Number.toInt_word`: a word is the residue, and with a sign its representative.
  - `Number.residue_eq_remainder`: the residue is what a truncated remainder gives, once more the divisor if that is
    negative.
  - `BinaryOperator.onResidues?` says what an operator on words makes of two residues.
  Main statement: `words_are_residues`.
-/
import GatedFormula.Proofs.Operands
import GatedFormula.Proofs.Remainder

namespace GatedFormula

namespace Number

variable {x : Float} {q : ℚ}

/-- The whole part modulo `2 ^ 32` of what a double denotes; what has no whole part counts as zero. -/
def residue (x : Float) : ℕ :=
  match value? x with
  | some q => (whole q % 2 ^ 32).toNat
  | none => 0

/-- The representative of a residue from `-2 ^ 31` up to `2 ^ 31 - 1`. -/
def balanced (n : ℕ) : ℤ := if n < 2 ^ 31 then n else n - 2 ^ 32

theorem residue_of_value? (h : value? x = some q) : (residue x : ℤ) = whole q % 2 ^ 32 := by
  rw [residue, h]
  exact Int.toNat_of_nonneg (Int.emod_nonneg _ (by decide))

theorem residue_ofWhole {n : ℤ} (h : n.natAbs < 2 ^ 53) : (residue (ofWhole n) : ℤ) = n % 2 ^ 32 := by
  rw [residue_of_value? (value?_ofWhole h), whole_intCast]

theorem balanced_modEq (n : ℕ) : balanced n ≡ n [ZMOD 2 ^ 32] := by
  rw [balanced]
  split
  · rfl
  · exact Int.modEq_iff_dvd.2 ⟨1, by ring⟩

theorem truncated?_eq_none (h : value? x = none) : truncated? x = none := by
  rw [value?] at h
  cases hx : Exact.of x with
  | nan | infinite => simp only [truncated?, hx]
  | finite negative m e => rw [hx] at h; cases h

/-! ## Words -/

theorem toNat_word (x : Float) : (word x).toNat = residue x := by
  rw [word, residue]
  cases h : value? x with
  | none => rw [truncated?_eq_none h]; rfl
  | some q =>
    rw [truncated?_of_value? h]
    exact BitVec.toNat_ofInt _

theorem toInt_eq_balanced (w : BitVec 32) : w.toInt = balanced w.toNat := by
  have hlt := w.isLt
  rw [BitVec.toInt_eq_toNat_cond, balanced]
  split <;> split <;> omega

theorem toInt_word (x : Float) : (word x).toInt = balanced (residue x) := by
  rw [toInt_eq_balanced, toNat_word]

theorem toInt_bounds (w : BitVec 32) : -2 ^ 31 ≤ w.toInt ∧ w.toInt < 2 ^ 31 :=
  ⟨BitVec.le_toInt w, BitVec.toInt_lt⟩

/-- Words are doubles, with a sign or without. -/
theorem value?_ofSigned (w : BitVec 32) : value? (ofSigned w) = some (w.toInt : ℚ) := by
  have hbounds := toInt_bounds w
  exact value?_ofWhole (by omega)

theorem value?_ofUnsigned (w : BitVec 32) : value? (ofUnsigned w) = some ((w.toNat : ℤ) : ℚ) := by
  have hlt := w.isLt
  exact value?_ofWhole (by omega)

/-- **The residue is a truncated remainder**, which has the sign of the whole part: a negative one lacks the divisor. -/
theorem residue_eq_remainder (h : value? x = some q) :
    ∃ r : ℤ, value? (remainder (truncated x) (ofWhole (2 ^ 32))) = some (r : ℚ) ∧
      (residue x : ℤ) = if r < 0 then r + 2 ^ 32 else r := by
  refine ⟨_, value?_remainder_intCast (value?_truncated h) (value?_ofWhole (by decide)) (by decide), ?_⟩
  rw [residue_of_value? h]
  have hlt := Int.emod_lt_of_pos (whole q) (b := 2 ^ 32) (by decide)
  have hnonneg := Int.emod_nonneg (whole q) (b := 2 ^ 32) (by decide)
  rw [Int.tmod_eq_emod]
  split <;> split <;> omega

end Number

/-! ## Operators on words -/

namespace BinaryOperator

open Number

variable {o : BinaryOperator} {l l' r r' : Float} {a b b' : ℕ}

/-- The operators that work on words. -/
def onWords : List BinaryOperator := [.bitOr, .bitXor, .bitAnd, .shiftLeft, .shiftRight, .shiftRightUnsigned]

/-- Those that move the bits of one word by a count. -/
def shifts : List BinaryOperator := [.shiftLeft, .shiftRight, .shiftRightUnsigned]

/-- What the operators on words make of two residues. A shift multiplies or divides by a power of two, rounded down. -/
def onResidues? (o : BinaryOperator) (a b : ℕ) : Option ℤ :=
  match o with
  | .bitOr => some (balanced (a ||| b))
  | .bitXor => some (balanced (a ^^^ b))
  | .bitAnd => some (balanced (a &&& b))
  | .shiftLeft => some (balanced (a * 2 ^ (b % 32) % 2 ^ 32))
  | .shiftRight => some (balanced a / 2 ^ (b % 32))
  | .shiftRightUnsigned => some (a / 2 ^ (b % 32) : ℕ)
  | _ => none

/-- A word that an operator gives is read without a sign by one of them, and with a sign by all others. -/
def reading (o : BinaryOperator) (w : BitVec 32) : ℤ := if o = .shiftRightUnsigned then w.toNat else w.toInt

theorem reading_bounds (o : BinaryOperator) (w : BitVec 32) :
    if o = .shiftRightUnsigned then 0 ≤ o.reading w ∧ o.reading w < 2 ^ 32
    else -2 ^ 31 ≤ o.reading w ∧ o.reading w < 2 ^ 31 := by
  have hlt := w.isLt
  rw [reading]
  split
  · omega
  · exact toInt_bounds w

theorem value?_reading (o : BinaryOperator) (w : BitVec 32) :
    value? (ofWhole (o.reading w)) = some (o.reading w : ℚ) := by
  rw [reading]
  split
  · exact value?_ofUnsigned w
  · exact value?_ofSigned w

/-- **An operator on words computes with residues.** -/
theorem onNumbers_eq_reading (h : o ∈ onWords) (l r : Float) :
    ∃ w, o.onNumbers l r = .number (ofWhole (o.reading w)) ∧
      o.onResidues? (residue l) (residue r) = some (o.reading w) := by
  have hl := toNat_word l
  have hr := toNat_word r
  simp only [onWords, List.mem_cons, List.not_mem_nil, or_false] at h
  rcases h with rfl | rfl | rfl | rfl | rfl | rfl
  · refine ⟨word l ||| word r, rfl, ?_⟩
    simp only [onResidues?, reading, toInt_eq_balanced, BitVec.toNat_or, hl, hr, reduceCtorEq, if_false]
  · refine ⟨word l ^^^ word r, rfl, ?_⟩
    simp only [onResidues?, reading, toInt_eq_balanced, BitVec.toNat_xor, hl, hr, reduceCtorEq, if_false]
  · refine ⟨word l &&& word r, rfl, ?_⟩
    simp only [onResidues?, reading, toInt_eq_balanced, BitVec.toNat_and, hl, hr, reduceCtorEq, if_false]
  · refine ⟨word l <<< shiftCount r, rfl, ?_⟩
    simp only [onResidues?, reading, toInt_eq_balanced, BitVec.toNat_shiftLeft, Nat.shiftLeft_eq, shiftCount, hl, hr,
      reduceCtorEq, if_false]
  · refine ⟨(word l).sshiftRight (shiftCount r), rfl, ?_⟩
    simp only [onResidues?, reading, BitVec.toInt_sshiftRight, Int.shiftRight_eq_div_pow, toInt_word, shiftCount, hr,
      reduceCtorEq, if_false, Nat.cast_pow, Nat.cast_ofNat]
  · refine ⟨word l >>> shiftCount r, rfl, ?_⟩
    simp only [onResidues?, reading, BitVec.toNat_ushiftRight, Nat.shiftRight_eq_div_pow, shiftCount, hl, hr, if_true]

theorem applyBinary_onWords (h : o ∈ onWords) (l r : Float) :
    applyBinary o.symbol (.number l) (.number r) = .ok (o.onNumbers l r) := by
  have he : ¬ o.isEquality := by
    simp only [onWords, List.mem_cons, List.not_mem_nil, or_false] at h
    rcases h with rfl | rfl | rfl | rfl | rfl | rfl <;> decide
  rw [applyBinary_symbol, apply_numbers he]

/-- Of the count of a shift the low five bits matter. -/
theorem onResidues?_congr (h : b = b' ∨ o ∈ shifts ∧ b % 32 = b' % 32) : o.onResidues? a b = o.onResidues? a b' := by
  rcases h with rfl | ⟨ho, hb⟩
  · rfl
  · simp only [shifts, List.mem_cons, List.not_mem_nil, or_false] at ho
    rcases ho with rfl | rfl | rfl <;> simp only [onResidues?, hb]

theorem onNumbers_congr (h : o ∈ onWords) (hl : residue l = residue l')
    (hr : residue r = residue r' ∨ o ∈ shifts ∧ residue r % 32 = residue r' % 32) :
    o.onNumbers l r = o.onNumbers l' r' := by
  obtain ⟨w, hw, hres⟩ := onNumbers_eq_reading h l r
  obtain ⟨w', hw', hres'⟩ := onNumbers_eq_reading h l' r'
  rw [hl, onResidues?_congr hr, hres', Option.some.injEq] at hres
  rw [hw, hw', hres]

end BinaryOperator

namespace UnaryOperator

open Number

theorem toInt_not (w : BitVec 32) : (~~~w).toInt = -w.toInt - 1 := by
  have hlt := w.isLt
  rw [toInt_eq_balanced, toInt_eq_balanced, BitVec.toNat_not, balanced, balanced]
  split <;> split <;> omega

theorem onNumber_bitNot (x : Float) : bitNot.onNumber x = .number (ofWhole (-balanced (residue x) - 1)) := by
  rw [← toInt_word, ← toInt_not]
  rfl

end UnaryOperator

/-- **Words are residues modulo `2 ^ 32`.** The word of a double is the residue of its whole part, and with a sign the
representative of that residue from `-2 ^ 31` up to `2 ^ 31 - 1`. It is the remainder of the whole part, and the divisor
more if that is negative. Infinities and what is no number have the word zero. The operators on words go by the residues
of their operands alone, and a shift by the low five bits of its count. What they give is a whole number that fits in a
word: without a sign for `>>>`, with a sign for all others. -/
theorem words_are_residues :
    (∀ x : Float, (Number.word x).toNat = Number.residue x ∧
      (Number.word x).toInt = Number.balanced (Number.residue x) ∧
      (Number.word x).toNat < 2 ^ 32 ∧ -2 ^ 31 ≤ (Number.word x).toInt ∧ (Number.word x).toInt < 2 ^ 31) ∧
    (∀ (x : Float) (q : ℚ), Number.value? x = some q →
      ((Number.word x).toNat : ℤ) = Number.whole q % 2 ^ 32 ∧
      (Number.word x).toInt ≡ Number.whole q [ZMOD 2 ^ 32] ∧
      Number.value? (Number.truncated x) = some (Number.whole q : ℚ) ∧
      ∃ r : ℤ, Number.value? (Number.remainder (Number.truncated x) (Number.ofWhole (2 ^ 32))) = some (r : ℚ) ∧
        ((Number.word x).toNat : ℤ) = if r < 0 then r + 2 ^ 32 else r) ∧
    (∀ x : Float, Number.value? x = none → (Number.word x).toNat = 0 ∧ (Number.word x).toInt = 0) ∧
    (∀ o ∈ BinaryOperator.onWords, ∀ l r : Float, ∃ k : ℤ,
      applyBinary o.symbol (.number l) (.number r) = .ok (.number (Number.ofWhole k)) ∧
      o.onResidues? (Number.residue l) (Number.residue r) = some k ∧ Number.value? (Number.ofWhole k) = some (k : ℚ) ∧
      if o = .shiftRightUnsigned then 0 ≤ k ∧ k < 2 ^ 32 else -2 ^ 31 ≤ k ∧ k < 2 ^ 31) ∧
    (∀ o ∈ BinaryOperator.onWords, ∀ l l' r r' : Float, Number.residue l = Number.residue l' →
      (Number.residue r = Number.residue r' ∨
        o ∈ BinaryOperator.shifts ∧ Number.residue r % 32 = Number.residue r' % 32) →
      applyBinary o.symbol (.number l) (.number r) = applyBinary o.symbol (.number l') (.number r')) ∧
    (∀ x : Float, ∃ k : ℤ, applyUnary "~" (.number x) = .ok (.number (Number.ofWhole k)) ∧
      k = -Number.balanced (Number.residue x) - 1 ∧ Number.value? (Number.ofWhole k) = some (k : ℚ) ∧
      -2 ^ 31 ≤ k ∧ k < 2 ^ 31) ∧
    ∀ x x' : Float, Number.residue x = Number.residue x' →
      applyUnary "~" (.number x) = applyUnary "~" (.number x') := by
  have hnot (x : Float) : applyUnary "~" (.number x) =
      .ok (.number (Number.ofWhole (-Number.balanced (Number.residue x) - 1))) :=
    congrArg Except.ok (UnaryOperator.onNumber_bitNot x)
  refine ⟨fun x => ?_, fun x q h => ⟨?_, ?_, Number.value?_truncated h, ?_⟩, fun x h => ?_, fun o ho l r => ?_,
    fun o ho l l' r r' hl hr => ?_, fun x => ⟨_, hnot x, rfl, ?_⟩, fun x x' hx => ?_⟩
  · exact ⟨Number.toNat_word x, Number.toInt_word x, (Number.word x).isLt, Number.toInt_bounds _⟩
  · rw [Number.toNat_word, Number.residue_of_value? h]
  · rw [Number.toInt_word]
    refine (Number.balanced_modEq _).trans ?_
    rw [Number.residue_of_value? h]
    exact Int.mod_modEq _ _
  · rw [Number.toNat_word]
    exact Number.residue_eq_remainder h
  · have hzero : Number.residue x = 0 := by rw [Number.residue, h]
    rw [Number.toNat_word, Number.toInt_word, hzero]
    exact ⟨rfl, rfl⟩
  · obtain ⟨w, hw, hres⟩ := BinaryOperator.onNumbers_eq_reading ho l r
    refine ⟨o.reading w, ?_, hres, o.value?_reading w, o.reading_bounds w⟩
    rw [BinaryOperator.applyBinary_onWords ho, hw]
  · rw [BinaryOperator.applyBinary_onWords ho, BinaryOperator.applyBinary_onWords ho,
      BinaryOperator.onNumbers_congr ho hl hr]
  · rw [← Number.toInt_word, ← UnaryOperator.toInt_not]
    exact ⟨Number.value?_ofSigned _, Number.toInt_bounds _⟩
  · rw [hnot, hnot, hx]

/-- `-1.5` is cut to `-1`, the last word; shifted by `33` it moves by one bit, and so does `2 ^ 32 - 1`. -/
theorem words_are_residues_last :
    let x := Float.ofBits 0xBFF8000000000000
    let last := Number.ofWhole (2 ^ 32 - 1)
    Number.value? x = some (-3 / 2) ∧ ((Number.word x).toNat : ℤ) = 2 ^ 32 - 1 ∧
    (Number.value? (Exact.toFloat .nan) = none ∧ (Number.word (Exact.toFloat .nan)).toNat = 0) ∧
    (BinaryOperator.shiftRightUnsigned ∈ BinaryOperator.onWords ∧ ∃ k : ℤ,
      applyBinary ">>>" (.number x) (.number (Number.ofWhole 33)) = .ok (.number (Number.ofWhole k)) ∧ k = 2 ^ 31 - 1) ∧
    (Number.residue x = Number.residue last ∧
      Number.residue (Number.ofWhole 33) % 32 = Number.residue (Number.ofWhole 1) % 32 ∧
      applyBinary ">>" (.number x) (.number (Number.ofWhole 33)) =
        applyBinary ">>" (.number last) (.number (Number.ofWhole 1))) ∧
    applyUnary "~" (.number x) = applyUnary "~" (.number last) := by
  intro x last
  obtain ⟨hword, hfinite, hnone, hbinary, hcongr, -, hnot⟩ := words_are_residues
  have hx : Number.value? x = some (-3 / 2) := by
    have hof : Exact.of x = .finite true 6755399441055744 (-52) := by decide
    rw [Number.value?, hof, Exact.value?]
    norm_num
  have hwhole : Number.whole (-3 / 2) = -1 := by norm_num [Number.whole, Int.ceil_eq_iff]
  have hlast : ((Number.word x).toNat : ℤ) = 2 ^ 32 - 1 := by
    rw [(hfinite x _ hx).1, hwhole]
    rfl
  have hresidue : Number.residue x = Number.residue last := by
    zify
    rw [← (hword x).1, hlast, Number.residue_ofWhole (by decide)]
    rfl
  have hnan : Number.value? (Exact.toFloat .nan) = none := by
    have hof : Exact.of (Exact.toFloat .nan) = .nan := by decide
    rw [Number.value?, hof]
    rfl
  have hcount : Number.residue (Number.ofWhole 33) = 33 := by
    zify
    exact Number.residue_ofWhole (by decide)
  have hone : Number.residue (Number.ofWhole 1) = 1 := by
    zify
    exact Number.residue_ofWhole (by decide)
  have hlow : Number.residue (Number.ofWhole 33) % 32 = Number.residue (Number.ofWhole 1) % 32 := by
    rw [hcount, hone]
  refine ⟨hx, hlast, ⟨hnan, (hnone _ hnan).1⟩, ⟨by decide, ?_⟩, ⟨hresidue, hlow, ?_⟩, hnot x last hresidue⟩
  · obtain ⟨k, hk, hresult, -⟩ := hbinary .shiftRightUnsigned (by decide) x (Number.ofWhole 33)
    refine ⟨k, hk, ?_⟩
    rw [BinaryOperator.onResidues?, Option.some.injEq, ← (hword x).1, hcount] at hresult
    rw [← hresult]
    zify
    rw [hlast]
    rfl
  · exact hcongr .shiftRight (by decide) x last _ _ hresidue (.inr ⟨by decide, hlow⟩)

end GatedFormula
