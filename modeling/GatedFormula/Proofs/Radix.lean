/-
  Texts with a radix mark, read as numbers.
  - `Text.Denotes` says which number one or more digits of a radix denote, and `Text.digits?_eq_some_iff` that it is
    the one that is read.
  - `Text.IsRead` also lets a plus sign stand in front of the digits, like `Number.ofDigits?` does.
  Main statement: `Value.toNumber_of_mark`.
-/
import GatedFormula.Proofs.Rounding
import GatedFormula.Standard.Library
import Mathlib.Data.Nat.Digits.Lemmas
import Mathlib.Tactic.IntervalCases

namespace GatedFormula

/-! ## Digits -/

namespace Text

/-- The digits of a radix up to sixteen, letters in either case. -/
def IsDigit (radix : ℕ) (c : Char) (d : ℕ) : Prop :=
  d < radix ∧ ("0123456789abcdef".toList[d]? = some c ∨ "0123456789ABCDEF".toList[d]? = some c)

/-- The number that one or more digits of a radix denote, the last digit counting least. -/
def Denotes (radix : ℕ) (cs : List Char) (n : ℕ) : Prop :=
  cs ≠ [] ∧ ∃ ds, List.Forall₂ (IsDigit radix) cs ds ∧ n = Nat.ofDigits radix ds.reverse

/-- The number of digits that one plus sign may stand in front of. -/
def IsRead (radix : ℕ) (cs : List Char) (n : ℕ) : Prop :=
  Denotes radix cs n ∨ ∃ ds, cs = '+' :: ds ∧ Denotes radix ds n

variable {radix a n d : ℕ} {c : Char} {cs : List Char}

/-- Smaller radixes have the first ones of sixteen digits. -/
theorem digit?_of_le (hr : radix ≤ 16) : digit? radix c = some d ↔ d < radix ∧ digit? 16 c = some d := by
  simp only [digit?, Option.ite_none_right_eq_some, Option.some.injEq]
  constructor
  · rintro ⟨h, rfl⟩
    exact ⟨h, h.trans_le hr, rfl⟩
  · rintro ⟨h, -, rfl⟩
    exact ⟨h, rfl⟩

theorem map_digit?_lower : "0123456789abcdef".toList.map (digit? 16) = (List.range 16).map some := by
  decide

theorem map_digit?_upper : "0123456789ABCDEF".toList.map (digit? 16) = (List.range 16).map some := by
  decide

theorem digit?_of_map {table : List Char} (ht : table.map (digit? 16) = (List.range 16).map some)
    (hc : table[d]? = some c) : digit? 16 c = some d := by
  have h : (table.map (digit? 16))[d]? = some (digit? 16 c) := by rw [List.getElem?_map, hc, Option.map_some]
  rw [ht, List.getElem?_map, Option.map_eq_some_iff] at h
  obtain ⟨i, hi, hd⟩ := h
  rw [← hd, (List.getElem?_eq_some_iff.1 hi).2.symm, List.getElem_range]

/-- The digits stand in the order of their numbers, in each of the three ranges. -/
theorem getElem?_of_digit? (h : digit? 16 c = some d) :
    "0123456789abcdef".toList[d]? = some c ∨ "0123456789ABCDEF".toList[d]? = some c := by
  simp only [digit?, Option.ite_none_right_eq_some, Option.some.injEq] at h
  obtain ⟨hlt, hd⟩ := h
  rw [hd] at hlt
  rw [← Char.ofNat_toNat c]
  split at hd
  · rename_i hrange
    have hlow : 48 ≤ c.toNat := hrange.1
    have hhigh : c.toNat ≤ 57 := hrange.2
    have hc : c.toNat = d + 48 := by omega
    have hd : d < 10 := by omega
    rw [hc]
    interval_cases d <;> exact .inl rfl
  · split at hd
    · rename_i hrange
      have hlow : 97 ≤ c.toNat := hrange.1
      have hhigh : c.toNat ≤ 102 := hrange.2
      have hc : c.toNat = d + 87 := by omega
      have hd : 10 ≤ d := by omega
      rw [hc]
      interval_cases d <;> exact .inl rfl
    · split at hd
      · rename_i hrange
        have hlow : 65 ≤ c.toNat := hrange.1
        have hhigh : c.toNat ≤ 70 := hrange.2
        have hc : c.toNat = d + 55 := by omega
        have hd : 10 ≤ d := by omega
        rw [hc]
        interval_cases d <;> exact .inr rfl
      · omega

theorem digit?_eq_some_iff (hr : radix ≤ 16) : digit? radix c = some d ↔ IsDigit radix c d := by
  rw [digit?_of_le hr, IsDigit]
  refine and_congr_right fun _ => ⟨getElem?_of_digit?, ?_⟩
  rintro (h | h)
  · exact digit?_of_map map_digit?_lower h
  · exact digit?_of_map map_digit?_upper h

/-- Reading on from a number puts the digits behind it. -/
theorem foldlM_digit?_eq_some_iff (hr : radix ≤ 16) :
    cs.foldlM (fun n c => (digit? radix c).map (n * radix + ·)) a = some n ↔
      ∃ ds, List.Forall₂ (IsDigit radix) cs ds ∧ n = a * radix ^ ds.length + Nat.ofDigits radix ds.reverse := by
  induction cs generalizing a with
  | nil => simp [eq_comm]
  | cons c cs ih =>
    have hvalue (d : ℕ) (ds : List ℕ) : (a * radix + d) * radix ^ ds.length + Nat.ofDigits radix ds.reverse =
        a * radix ^ (d :: ds).length + Nat.ofDigits radix (d :: ds).reverse := by
      rw [List.reverse_cons, Nat.ofDigits_append, Nat.ofDigits_singleton, List.length_reverse, List.length_cons]
      ring
    rw [List.foldlM_cons, Option.bind_eq_bind, Option.bind_eq_some_iff]
    simp only [Option.map_eq_some_iff, digit?_eq_some_iff hr, ih]
    constructor
    · rintro ⟨-, ⟨d, hd, rfl⟩, ds, hds, rfl⟩
      exact ⟨d :: ds, .cons hd hds, hvalue d ds⟩
    · rintro ⟨all, hall, rfl⟩
      obtain ⟨d, ds, hd, hds, rfl⟩ := List.forall₂_cons_left_iff.1 hall
      exact ⟨_, ⟨d, hd, rfl⟩, ds, hds, (hvalue d ds).symm⟩

/-- **Digits are read as the number that they denote**, and nothing else is read. -/
theorem digits?_eq_some_iff (hr : radix ≤ 16) : digits? radix cs = some n ↔ Denotes radix cs n := by
  cases cs with
  | nil => simp [digits?, Denotes]
  | cons c cs =>
    rw [digits?, foldlM_digit?_eq_some_iff hr, Denotes]
    · simp
    · nofun

/-- A plus sign is no digit. -/
theorem not_denotes_plus (hr : radix ≤ 16) : ¬ Denotes radix ('+' :: cs) n := by
  rintro ⟨-, ds, h, -⟩
  obtain ⟨d, -, hd, -⟩ := List.forall₂_cons_left_iff.1 h
  cases ((digit?_of_le hr).1 ((digit?_eq_some_iff hr).2 hd)).2

end Text

/-! ## Marks -/

namespace Number

variable {radix n : ℕ} {mark : String} {cs : List Char} {s : String}

/-- **A number is read from digits behind at most one plus sign**, if it is below `2 ^ 64`. -/
theorem ofDigits?_eq_some_iff (hr : radix ≤ 16) :
    ofDigits? radix cs = some n ↔ n < 2 ^ 64 ∧ Text.IsRead radix cs n := by
  have hread : ofDigits? radix cs = some n ↔ Text.IsRead radix cs n ∧ n < 2 ^ 64 := by
    unfold ofDigits? Text.IsRead
    simp only [Option.filter_eq_some_iff, decide_eq_true_eq]
    refine and_congr_left fun _ => ?_
    split
    · rw [Text.digits?_eq_some_iff hr, or_iff_right (Text.not_denotes_plus hr)]
      simp
    · rename_i hplus
      rw [Text.digits?_eq_some_iff hr, or_iff_left fun ⟨ds, hds, _⟩ => hplus ds hds]
  rw [hread, and_comm]

/-- The marks, each with its radix. -/
def radixMarks : List (String × ℕ) := [("0x", 16), ("0X", 16), ("0o", 8), ("0O", 8), ("0b", 2), ("0B", 2)]

theorem radix_le_of_mark : (mark, radix) ∈ radixMarks → radix ≤ 16 := by
  simp only [radixMarks, List.mem_cons, Prod.mk.injEq, List.not_mem_nil, or_false]
  omega

theorem radixMarked?_of_mark (hm : (mark, radix) ∈ radixMarks) :
    radixMarked? (mark.toList ++ cs) = some (radix, cs) := by
  simp only [radixMarks, List.mem_cons, Prod.mk.injEq, List.not_mem_nil, or_false] at hm
  rcases hm with ⟨rfl, rfl⟩ | ⟨rfl, rfl⟩ | ⟨rfl, rfl⟩ | ⟨rfl, rfl⟩ | ⟨rfl, rfl⟩ | ⟨rfl, rfl⟩ <;> rfl

theorem ofText_of_mark (hm : (mark, radix) ∈ radixMarks) (hs : Text.trim s.toList = mark.toList ++ cs) :
    ofText s = match ofDigits? radix cs with
      | some n => ofWhole n
      | none => nan := by
  have hmark : radixMarked? (mark.toList ++ cs) = some (radix, cs) := radixMarked?_of_mark hm
  have hne (t : List Char) (ht : radixMarked? t = none) : Text.trim s.toList ≠ t := by
    rintro rfl
    rw [hs, hmark] at ht
    cases ht
  have hinfinite : ¬ (Text.trim s.toList = "Infinity".toList ∨ Text.trim s.toList = "+Infinity".toList) :=
    not_or.2 ⟨hne _ rfl, hne _ rfl⟩
  rw [ofText]
  simp only [if_neg (hne [] rfl), if_neg hinfinite, if_neg (hne "-Infinity".toList rfl)]
  rewrite [hs, hmark]
  rfl

end Number

variable {mark : String} {radix : ℕ} {s : String} {cs : List Char}

/-- **A text with a radix mark is the number that is read behind it**, rounded to a double, and no number if none is
read there or if it has more than 64 bits. -/
theorem Value.toNumber_of_mark (hm : (mark, radix) ∈ Number.radixMarks)
    (hs : Text.trim s.toList = mark.toList ++ cs) :
    (∀ n < 2 ^ 64, Text.IsRead radix cs n →
      (Value.text s).toNumber = Number.ofWhole n ∧ Number.IsNearest (Number.ofWhole n) n) ∧
    ((∀ n < 2 ^ 64, ¬ Text.IsRead radix cs n) → (Value.text s).toNumber = Number.nan) := by
  have hr := Number.radix_le_of_mark hm
  rw [Value.toNumber, Number.ofText_of_mark hm hs]
  constructor
  · intro n hn hread
    rw [(Number.ofDigits?_eq_some_iff hr).2 ⟨hn, hread⟩]
    exact ⟨rfl, Number.isNearest_ofWhole (n := n) (by simpa using hn)⟩
  · intro hnone
    have h : Number.ofDigits? radix cs = none := Option.eq_none_iff_forall_ne_some.2 fun n h =>
      have ⟨hn, hread⟩ := (Number.ofDigits?_eq_some_iff hr).1 h
      hnone n hn hread
    rw [h]

/-- Thirty-one in two ways, and what has no digits. -/
theorem Value.toNumber_of_mark_thirtyOne :
    (("0x", 16) ∈ Number.radixMarks ∧ Text.trim " 0x1F".toList = "0x".toList ++ ['1', 'F'] ∧ 31 < 2 ^ 64 ∧
      Text.IsRead 16 ['1', 'F'] 31 ∧ (Value.text " 0x1F").toNumber = Number.ofWhole 31) ∧
    (("0b", 2) ∈ Number.radixMarks ∧ Text.trim "0b2".toList = "0b".toList ++ ['2'] ∧
      (∀ n < 2 ^ 64, ¬ Text.IsRead 2 ['2'] n) ∧ (Value.text "0b2").toNumber = Number.nan) := by
  have hmark : ("0x", 16) ∈ Number.radixMarks ∧ ("0b", 2) ∈ Number.radixMarks := by decide
  have htrim : Text.trim " 0x1F".toList = "0x".toList ++ ['1', 'F'] := by decide
  have hread : Text.IsRead 16 ['1', 'F'] 31 :=
    .inl ⟨nofun, [1, 15], .cons ⟨by decide, .inl rfl⟩ (.cons ⟨by decide, .inr rfl⟩ .nil), rfl⟩
  have hnone (n : ℕ) (hn : n < 2 ^ 64) : ¬ Text.IsRead 2 ['2'] n := fun h => by
    cases (Number.ofDigits?_eq_some_iff (by decide)).2 ⟨hn, h⟩
  exact ⟨⟨hmark.1, htrim, by decide, hread, ((Value.toNumber_of_mark hmark.1 htrim).1 31 (by decide) hread).1⟩,
    hmark.2, by decide, hnone, (Value.toNumber_of_mark (s := "0b2") hmark.2 (by decide)).2 hnone⟩

/-- A plus sign behind the mark is no digit, but it does not keep a text from being a number. -/
theorem Value.toNumber_plus_after_mark :
    Text.trim "0x+5".toList = "0x".toList ++ ['+', '5'] ∧ (∀ n, ¬ Text.Denotes 16 ['+', '5'] n) ∧
      (Value.text "0x+5").toNumber = Number.ofWhole 5 ∧ Number.value? (Number.ofWhole 5) = some 5 ∧
      Number.value? Number.nan = none := by
  exact ⟨by decide, fun n => Text.not_denotes_plus (by decide), by decide,
    Number.value?_ofWhole (n := 5) (by decide), by decide⟩

end GatedFormula
