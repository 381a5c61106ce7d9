/-
  Searching the bytes of a text finds what searching its characters finds.
  - A byte that starts a character is no later byte of another (`exists_utf8EncodeChar`), so a text stands among the
    bytes only where a character starts: `first?_utf8`, `last?_utf8`, `utf8_prefix_iff`, `utf8_suffix_iff`.
  - `charIndex_byteOffset`: counting characters undoes the offset of a place.
  Main statements: `indexFrom?_eq`, `includesFrom_eq`, `startsAt_eq`, `lastIndex?_eq`, `ends_eq`.
-/
import GatedFormula.Proofs.Occurrence
import Mathlib.Data.List.Infix

namespace GatedFormula.Text

variable {p s t : List Char} {i k : ℕ}

/-! ## The bytes of a text -/

theorem utf8_cons (c : Char) (s : List Char) : utf8 (c :: s) = String.utf8EncodeChar c ++ utf8 s := rfl

/-- A character is a byte that starts one, and bytes that do not. -/
theorem exists_utf8EncodeChar (c : Char) : ∃ (a : UInt8) (u : List UInt8), String.utf8EncodeChar c = a :: u ∧
    a.IsUTF8FirstByte ∧ (∀ b ∈ u, ¬ b.IsUTF8FirstByte) ∧ u.length + 1 = c.utf8Size := by
  have hfirst (i : ℕ) (hi : i < (String.utf8EncodeChar c).length) :
    (String.utf8EncodeChar c)[i].IsUTF8FirstByte ↔ i = 0 := UInt8.isUTF8FirstByte_getElem_utf8EncodeChar
  have hlength : (String.utf8EncodeChar c).length = c.utf8Size := String.length_utf8EncodeChar c
  cases hc : String.utf8EncodeChar c with
  | nil => exact absurd hc String.utf8EncodeChar_ne_nil
  | cons a u =>
    simp only [hc] at hfirst hlength
    refine ⟨a, u, rfl, (hfirst 0 (Nat.zero_lt_succ _)).2 rfl, fun b hb hb' => ?_, hlength⟩
    obtain ⟨i, hi, rfl⟩ := List.mem_iff_getElem.1 hb
    exact Nat.succ_ne_zero i ((hfirst (i + 1) (Nat.succ_lt_succ hi)).1 hb')

/-- A text that is not empty starts with a byte that starts a character. -/
theorem exists_utf8 (h : p ≠ []) : ∃ (a : UInt8) (rest : List UInt8), utf8 p = a :: rest ∧ a.IsUTF8FirstByte := by
  obtain ⟨c, p, rfl⟩ := List.exists_cons_of_ne_nil h
  obtain ⟨a, u, hc, ha, -⟩ := exists_utf8EncodeChar c
  exact ⟨a, u ++ utf8 p, by rw [utf8_cons, hc, List.cons_append], ha⟩

/-- **Bytes start with the bytes of a text just if the text starts with it.** -/
theorem utf8_prefix_iff : utf8 p <+: utf8 s ↔ p <+: s := by
  refine ⟨?_, fun h => h.flatMap _⟩
  rintro ⟨rest, h⟩
  refine List.isPrefix_of_utf8Encode_append_eq_utf8Encode rest.toByteArray ?_
  rw [List.utf8Encode, List.utf8Encode, ← List.toByteArray_append]
  exact congrArg List.toByteArray h

theorem utf8_injective (h : utf8 s = utf8 t) : s = t := by
  have hst : s <+: t := utf8_prefix_iff.1 (h ▸ List.prefix_refl _)
  have hts : t <+: s := utf8_prefix_iff.1 (h ▸ List.prefix_refl _)
  exact hst.eq_of_length_le hts.length_le

theorem startsWith_utf8 (p s : List Char) : startsWith (utf8 p) (utf8 s) = startsWith p s := by
  rw [Bool.eq_iff_iff, startsWith, startsWith, List.isPrefixOf_iff_prefix, List.isPrefixOf_iff_prefix, utf8_prefix_iff]

/-! ## Places and bytes -/

theorem byteOffset_zero (s : List Char) : byteOffset s 0 = 0 := by
  cases s <;> rfl

theorem byteOffset_nil (k : ℕ) : byteOffset [] k = 0 := by
  cases k <;> rfl

theorem byteOffset_add (s : List Char) (k i : ℕ) :
    byteOffset s (k + i) = byteOffset s k + byteOffset (s.drop k) i := by
  induction k generalizing s with
  | zero => rw [Nat.zero_add, List.drop_zero, byteOffset_zero, Nat.zero_add]
  | succ k ih =>
    cases s with
    | nil => rw [List.drop_nil, byteOffset_nil, byteOffset_nil, byteOffset_nil]
    | cons c s => rw [Nat.succ_add, byteOffset, byteOffset, List.drop_succ_cons, ih, Nat.add_assoc]

theorem byteOffset_length (s : List Char) : byteOffset s s.length = (utf8 s).length := by
  induction s with
  | nil => rfl
  | cons c s ih => rw [List.length_cons, byteOffset, ih, utf8_cons, List.length_append, String.length_utf8EncodeChar]

/-- The bytes from a place on are those of the characters from there on. -/
theorem bytesFrom_eq (s : List Char) (k : ℕ) : bytesFrom s k = utf8 (s.drop k) := by
  rw [bytesFrom]
  induction k generalizing s with
  | zero => rw [byteOffset_zero, List.drop_zero, List.drop_zero]
  | succ k ih =>
    cases s with
    | nil => rfl
    | cons c s =>
      rw [byteOffset, utf8_cons, ← String.length_utf8EncodeChar, List.drop_length_add_append, ih, List.drop_succ_cons]

/-- **Counting characters undoes the offset of a place.** -/
theorem charIndex_byteOffset (h : k ≤ s.length) : charIndex s (byteOffset s k) = k := by
  induction k generalizing s with
  | zero =>
    rw [byteOffset_zero]
    cases s <;> rfl
  | succ k ih =>
    cases s with
    | nil => exact absurd h (Nat.not_succ_le_zero k)
    | cons c s =>
      have hpos : c.utf8Size + byteOffset s k ≠ 0 := (Nat.add_pos_left c.utf8Size_pos _).ne'
      rw [byteOffset, charIndex, if_neg hpos, Nat.add_sub_cancel_left, ih (Nat.le_of_succ_le_succ h)]

/-! ## Bytes that start no character

A search for a text passes over them. -/

section
variable {a b : UInt8} {rest u v : List UInt8}

/-- What starts a character does not stand at a byte that starts none. -/
theorem startsWith_cons_of_not (ha : a.IsUTF8FirstByte) (hb : ¬ b.IsUTF8FirstByte) :
    startsWith (a :: rest) (b :: v) = false := by
  have hab : (a == b) = false := by
    rw [beq_eq_false_iff_ne]
    rintro rfl
    exact hb ha
  rw [startsWith, List.isPrefixOf, hab, Bool.false_and]

theorem first?_append_of_not (ha : a.IsUTF8FirstByte) (hu : ∀ b ∈ u, ¬ b.IsUTF8FirstByte) :
    first? (a :: rest) (u ++ v) = (first? (a :: rest) v).map (· + u.length) := by
  induction u with
  | nil => exact Option.map_id'.symm
  | cons b u ih =>
    obtain ⟨hb, hu⟩ := List.forall_mem_cons.1 hu
    rw [List.cons_append, first?, startsWith_cons_of_not ha hb, if_neg Bool.false_ne_true, ih hu, Option.map_map]
    rfl

theorem last?_append_of_not (ha : a.IsUTF8FirstByte) (hu : ∀ b ∈ u, ¬ b.IsUTF8FirstByte) :
    last? (a :: rest) (u ++ v) = (last? (a :: rest) v).map (· + u.length) := by
  induction u with
  | nil => exact Option.map_id'.symm
  | cons b u ih =>
    obtain ⟨hb, hu⟩ := List.forall_mem_cons.1 hu
    rw [List.cons_append, last?, startsWith_cons_of_not ha hb, ih hu]
    cases last? (a :: rest) v <;> rfl

theorem suffix_append_of_not (ha : a.IsUTF8FirstByte) (hu : ∀ b ∈ u, ¬ b.IsUTF8FirstByte) :
    a :: rest <:+ u ++ v ↔ a :: rest <:+ v := by
  induction u with
  | nil => rfl
  | cons b u ih =>
    obtain ⟨hb, hu⟩ := List.forall_mem_cons.1 hu
    rw [List.cons_append, List.suffix_cons_iff, ih hu, or_iff_right]
    rintro ⟨⟩
    exact hb ha

end

/-! ## Where a text stands among bytes -/

theorem first?_nil_eq {α : Type} [BEq α] (l : List α) : first? [] l = some 0 := by
  cases l <;> rfl

theorem last?_nil_eq {α : Type} [BEq α] (l : List α) : last? [] l = some l.length := by
  induction l with
  | nil => rfl
  | cons c l ih => rw [last?, ih, List.length_cons]

theorem last?_cons {α : Type} [BEq α] (p : List α) (c : α) (l : List α) :
    last? p (c :: l) = ((last? p l).map (· + 1) <|> if startsWith p (c :: l) then some 0 else none) := by
  rw [last?]
  cases last? p l <;> rfl

/-- **The bytes of a text are found first at the byte at which the text is found first.** -/
theorem first?_utf8 (p s : List Char) : first? (utf8 p) (utf8 s) = (first? p s).map (byteOffset s) := by
  rcases eq_or_ne p [] with rfl | hp
  · rw [first?_nil_eq, Option.map_some, byteOffset_zero]
    exact first?_nil_eq _
  obtain ⟨a, rest, hbytes, ha⟩ := exists_utf8 hp
  induction s with
  | nil =>
    have hempty : p.isEmpty = false := List.isEmpty_eq_false_iff.2 hp
    rw [hbytes, first?, hempty]
    rfl
  | cons c s ih =>
    obtain ⟨b, u, hc, -, hu, hlength⟩ := exists_utf8EncodeChar c
    have hstep : first? (utf8 p) (utf8 (c :: s)) =
        if startsWith p (c :: s) then some 0 else (first? (utf8 p) (u ++ utf8 s)).map (· + 1) := by
      rw [← startsWith_utf8, utf8_cons, hc]
      rfl
    rw [hstep, first?]
    split
    · rw [Option.map_some, byteOffset_zero]
    · rw [hbytes, first?_append_of_not ha hu, ← hbytes, ih, Option.map_map, Option.map_map, Option.map_map]
      congr 1
      funext i
      show byteOffset s i + u.length + 1 = byteOffset (c :: s) (i + 1)
      rw [byteOffset, ← hlength]
      omega

/-- **The bytes of a text are found last at the byte at which the text is found last.** -/
theorem last?_utf8 (p s : List Char) : last? (utf8 p) (utf8 s) = (last? p s).map (byteOffset s) := by
  rcases eq_or_ne p [] with rfl | hp
  · rw [last?_nil_eq, Option.map_some, byteOffset_length]
    exact last?_nil_eq _
  obtain ⟨a, rest, hbytes, ha⟩ := exists_utf8 hp
  induction s with
  | nil =>
    have hempty : p.isEmpty = false := List.isEmpty_eq_false_iff.2 hp
    rw [hbytes, last?, hempty]
    rfl
  | cons c s ih =>
    obtain ⟨b, u, hc, -, hu, hlength⟩ := exists_utf8EncodeChar c
    have hstep : last? (utf8 p) (utf8 (c :: s)) = ((last? (utf8 p) (u ++ utf8 s)).map (· + 1) <|>
        if startsWith p (c :: s) then some 0 else none) := by
      rw [← startsWith_utf8, utf8_cons, hc]
      exact last?_cons _ _ _
    rw [hstep, hbytes, last?_append_of_not ha hu, ← hbytes, ih, last?_cons]
    cases last? p s with
    | some i =>
      show some (byteOffset s i + u.length + 1) = some (byteOffset (c :: s) (i + 1))
      rw [byteOffset, ← hlength]
      congr 1
      omega
    | none =>
      by_cases hstart : startsWith p (c :: s)
      · rw [if_pos hstart]
        exact congrArg some (byteOffset_zero _).symm
      · rw [if_neg hstart]
        rfl

/-- **Bytes end with the bytes of a text just if the text ends with it.** -/
theorem utf8_suffix_iff : utf8 p <:+ utf8 s ↔ p <:+ s := by
  refine ⟨?_, fun h => h.flatMap _⟩
  rcases eq_or_ne p [] with rfl | hp
  · exact fun _ => List.nil_suffix
  obtain ⟨a, rest, hbytes, ha⟩ := exists_utf8 hp
  induction s with
  | nil =>
    intro h
    rw [hbytes] at h
    exact absurd (List.suffix_nil.1 h) (List.cons_ne_nil _ _)
  | cons c s ih =>
    intro h
    obtain ⟨b, u, hc, -, hu, -⟩ := exists_utf8EncodeChar c
    rw [utf8_cons, hc, List.cons_append, List.suffix_cons_iff] at h
    rcases h with h | h
    · rw [← List.cons_append, ← hc, ← utf8_cons] at h
      exact utf8_injective h ▸ List.suffix_rfl
    · rw [hbytes, suffix_append_of_not ha hu, ← hbytes] at h
      exact (ih h).trans (List.suffix_cons _ _)

/-! ## The searches -/

/-- **Looking among the bytes from a place on finds the first place from there in characters.** -/
theorem indexFrom?_eq (hk : k ≤ s.length) : indexFrom? p s k = firstFrom? p s k := by
  rw [indexFrom?, bytesFrom_eq, first?_utf8, Option.map_map, firstFrom?]
  refine Option.map_congr fun i hi => ?_
  have hle : i ≤ (s.drop k).length := by
    have h : IsFirst {i | OccursAt p (s.drop k) i} (some i) := hi ▸ isFirst_first? p (s.drop k)
    exact (Nat.le_add_right _ _).trans h.1.le
  rw [List.length_drop] at hle
  show charIndex s (byteOffset s k + byteOffset (s.drop k) i) = i + k
  rw [← byteOffset_add, charIndex_byteOffset (by omega), Nat.add_comm]

theorem includesFrom_eq (p s : List Char) (k : ℕ) : includesFrom p s k = (indexFrom? p s k).isSome := by
  rw [includesFrom, indexFrom?, Option.isSome_map]

theorem startsAt_eq (p s : List Char) (k : ℕ) : startsAt p s k = startsWith p (s.drop k) := by
  rw [startsAt, bytesFrom_eq, startsWith_utf8]

/-- **Looking among the bytes from the end finds the last place in characters.** -/
theorem lastIndex?_eq (p s : List Char) : lastIndex? p s = last? p s := by
  rw [lastIndex?, last?_utf8, Option.map_map]
  refine (Option.map_congr fun i hi => ?_).trans Option.map_id'
  have h : IsLast {i | OccursAt p s i} (some i) := hi ▸ isLast_last? p s
  exact charIndex_byteOffset ((Nat.le_add_right _ _).trans h.1.le)

theorem ends_eq (p s : List Char) : ends p s = p.isSuffixOf s := by
  rw [Bool.eq_iff_iff, ends, List.isSuffixOf_iff_suffix, List.isSuffixOf_iff_suffix, utf8_suffix_iff]

end GatedFormula.Text
