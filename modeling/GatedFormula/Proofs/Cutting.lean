/-
  The methods that cut a text.
  - `Text.slice_bounds`, `Text.substring_bounds` and `Text.between_append`: what is cut stands in the text, and cuts at
    one place fit together.
  - `TextMethod.invoke_cut`: what the methods cut, by the positions of arguments.
  Main statement: `cuts_fit`.
-/
import GatedFormula.Method.Text
import GatedFormula.Proofs.WholePart

namespace GatedFormula

/-! ## Parts of a text -/

namespace Text

/-- What is between two places of a text are the characters from one place on up to another. -/
theorem exists_bounds {s : List Char} {i j : ℕ} (hi : i ≤ s.length) (hj : j ≤ s.length) :
    ∃ start stop, start ≤ stop ∧ stop ≤ s.length ∧ between s i j = (s.take stop).drop start := by
  rcases le_total i j with h | h
  · exact ⟨i, j, h, hj, List.drop_take.symm⟩
  · refine ⟨i, i, le_rfl, hi, ?_⟩
    rw [between, List.drop_take, Nat.sub_eq_zero_of_le h, Nat.sub_self]

theorem slice_bounds (s : List Char) (a b : Position) :
    ∃ start stop, start ≤ stop ∧ stop ≤ s.length ∧ slice s a b = (s.take stop).drop start :=
  exists_bounds (a.relative_le _) (b.relative_le _)

theorem substring_bounds (s : List Char) (a b : Position) :
    ∃ start stop, start ≤ stop ∧ stop ≤ s.length ∧ substring s a b = (s.take stop).drop start :=
  exists_bounds ((min_le_left _ _).trans (a.clamped_le _)) (max_le (a.clamped_le _) (b.clamped_le _))

theorem between_zero_length (s : List Char) : between s 0 s.length = s := by
  rw [between, List.drop_zero, Nat.sub_zero, List.take_length]

/-- Cut at a place, a text is its two parts. -/
theorem between_append (s : List Char) (k : ℕ) : between s 0 k ++ between s k s.length = s := by
  rw [between, between, List.drop_zero, Nat.sub_zero, ← List.length_drop, List.take_length, List.take_append_drop]

theorem substring_comm (s : List Char) (a b : Position) : substring s a b = substring s b a := by
  simp only [substring, min_comm, max_comm]

end Text

/-! ## Positions from the end -/

namespace Position

variable {x y : Float} {i : ℤ} {length : ℕ}

theorem relative_zero (length : ℕ) : (ofNumber 0).relative length = 0 := by
  have hwhole : Number.whole 0 = 0 := Number.whole_intCast 0
  rw [ofNumber_eq_index_whole Number.value?_zero, hwhole, relative, if_neg (lt_irrefl 0)]
  exact Nat.zero_min _

theorem relative_length (length : ℕ) : (index length).relative length = length := by
  rw [relative, if_neg (by omega), Int.toNat_natCast, min_self]

/-- A negative whole number is added to the length. -/
theorem relative_of_negative (hx : Number.value? x = some (i : ℚ)) (hi : i < 0) :
    (ofNumber x).relative length = (length + i).toNat := by
  rw [ofNumber_eq_index_whole hx, Number.whole_intCast, relative, if_pos hi]

theorem relative_of_inside (hx : Number.value? x = some (i : ℚ)) (h0 : 0 ≤ i) (hi : i ≤ length) :
    (ofNumber x).relative length = i.toNat := by
  rw [ofNumber_eq_index_whole hx, Number.whole_intCast, relative, if_neg (by omega), min_eq_left (by omega)]

end Position

/-! ## Cutting -/

namespace TextMethod

variable {s : String} {args : List Value} {a b : Position}

/-- Both methods read their two positions in the same way, and cut by them. -/
theorem invoke_cut (ha : (Argument.get args 0).Points (.index 0) a)
    (hb : (Argument.get args 1).Points (.index s.length) b) (site : Place) :
    invoke .slice (some (.text s)) args site = .ok (ofChars (Text.slice s.toList a b)) ∧
      invoke .substring (some (.text s)) args site = .ok (ofChars (Text.substring s.toList a b)) := by
  rw [← String.length_toList] at hb
  simp only [invoke, apply, Argument.position_eq_ok_iff.2 ha, Argument.position_eq_ok_iff.2 hb]
  exact ⟨rfl, rfl⟩

end TextMethod

theorem Value.exists_points_numbers (xs : List Float) (i : ℕ) (default : Position) :
    ∃ t, (Argument.get (xs.map .number) i).Points default t := by
  rw [Argument.get, List.getElem?_map]
  cases xs[i]? with
  | none => exact ⟨default, .missing⟩
  | some x => exact ⟨_, Value.points_number default x⟩

/-- **Cuts stay in the text and fit together**, whatever numbers they are given as places. -/
theorem cuts_fit (s : String) (site : Place) :
    let cut (m : TextMethod) (xs : List Float) := m.invoke (some (.text s)) (xs.map .number) site
    (∀ m ∈ [TextMethod.slice, .substring], ∀ xs, ∃ start stop, start ≤ stop ∧ stop ≤ s.length ∧
      cut m xs = .ok (.text (String.ofList ((s.toList.take stop).drop start)))) ∧
    (∀ p, ∃ front back : String,
      cut .slice [0, p] = .ok (.text front) ∧ cut .slice [p] = .ok (.text back) ∧ front ++ back = s) ∧
    (∀ a b, cut .substring [a, b] = cut .substring [b, a]) ∧
    (∀ a b, 0 ≤ a → a ≤ b → cut .substring [a, b] = cut .slice [a, b]) ∧
    ∀ p (i : ℤ), Number.value? p = some (i : ℚ) → i < 0 →
      (∀ q, 0 ≤ s.length + i → Number.value? q = some ((s.length + i : ℤ) : ℚ) → cut .slice [p] = cut .slice [q]) ∧
      (s.length + i < 0 → cut .slice [p] = .ok (.text s)) := by
  intro cut
  have hslice (a b : Float) : cut .slice [a, b] =
      .ok (TextMethod.ofChars (Text.slice s.toList (.ofNumber a) (.ofNumber b))) :=
    (TextMethod.invoke_cut (Value.points_number _ a) (Value.points_number _ b) site).1
  have hend (a : Float) : cut .slice [a] =
      .ok (TextMethod.ofChars (Text.between s.toList ((Position.ofNumber a).relative s.length) s.length)) := by
    refine (TextMethod.invoke_cut (Value.points_number _ a) .missing site).1.trans ?_
    rw [Text.slice, String.length_toList, Position.relative_length]
  have hsubstring (a b : Float) : cut .substring [a, b] =
      .ok (TextMethod.ofChars (Text.substring s.toList (.ofNumber a) (.ofNumber b))) :=
    (TextMethod.invoke_cut (Value.points_number _ a) (Value.points_number _ b) site).2
  refine ⟨fun m hm xs => ?_, fun p => ?_, fun a b => ?_, fun a b ha hb => ?_,
    fun p i hp hi => ⟨fun q hq hv => ?_, fun hlt => ?_⟩⟩
  · obtain ⟨a, ha⟩ := Value.exists_points_numbers xs 0 (.index 0)
    obtain ⟨b, hb⟩ := Value.exists_points_numbers xs 1 (.index s.length)
    simp only [List.mem_cons, List.not_mem_nil, or_false] at hm
    rw [← String.length_toList]
    rcases hm with rfl | rfl
    · obtain ⟨start, stop, hle, hstop, h⟩ := Text.slice_bounds s.toList a b
      refine ⟨start, stop, hle, hstop, (TextMethod.invoke_cut ha hb site).1.trans ?_⟩
      rw [h, TextMethod.ofChars]
    · obtain ⟨start, stop, hle, hstop, h⟩ := Text.substring_bounds s.toList a b
      refine ⟨start, stop, hle, hstop, (TextMethod.invoke_cut ha hb site).2.trans ?_⟩
      rw [h, TextMethod.ofChars]
  · refine ⟨_, _, hslice 0 p, hend p, ?_⟩
    rw [← String.ofList_append, Text.slice, Position.relative_zero, ← String.length_toList, Text.between_append,
      String.ofList_toList]
  · rw [hsubstring, hsubstring, Text.substring_comm]
  · have hle := Position.clamped_mono hb s.toList.length
    rw [hsubstring, hslice, Text.substring, Text.slice, Position.relative_of_nonneg ha,
      Position.relative_of_nonneg (Number.le_trans ha hb), min_eq_left hle, max_eq_right hle]
  · have hinside : (s.length : ℤ) + i ≤ s.length := by omega
    rw [hend, hend, Position.relative_of_negative hp hi, Position.relative_of_inside hv hq hinside]
  · rw [hend, Position.relative_of_negative hp hi, Int.toNat_of_nonpos hlt.le, ← String.length_toList,
      Text.between_zero_length, TextMethod.ofChars, String.ofList_toList]

/-- One character from the end is two from the start, and four from the end is the whole. -/
theorem cuts_fit_accented :
    let cut (m : TextMethod) (xs : List Float) := m.invoke (some (.text "née")) (xs.map .number) (.root 0)
    (TextMethod.slice ∈ [TextMethod.slice, .substring] ∧ ∃ start stop, start ≤ stop ∧ stop ≤ "née".length ∧
      cut .slice [Number.nan, Number.infinity] = .ok (.text (String.ofList (("née".toList.take stop).drop start)))) ∧
    ((0 : Float) ≤ 1 ∧ (1 : Float) ≤ Number.infinity ∧
      cut .substring [1, Number.infinity] = cut .slice [1, Number.infinity]) ∧
    (Number.value? (Number.ofWhole (-1)) = some ((-1 : ℤ) : ℚ) ∧
      Number.value? (Number.ofWhole 2) = some (("née".length + -1 : ℤ) : ℚ) ∧
      cut .slice [Number.ofWhole (-1)] = cut .slice [Number.ofWhole 2]) ∧
    Number.value? (Number.ofWhole (-4)) = some ((-4 : ℤ) : ℚ) ∧ ("née".length + -4 : ℤ) < 0 ∧
      cut .slice [Number.ofWhole (-4)] = .ok (.text "née") := by
  intro cut
  obtain ⟨hpart, -, -, hordered, hnegative⟩ := cuts_fit "née" (.root 0)
  have hone := Number.value?_ofWhole (n := -1) (by decide)
  have htwo := Number.value?_ofWhole (n := 2) (by decide)
  have hfour := Number.value?_ofWhole (n := -4) (by decide)
  exact ⟨⟨by decide, hpart .slice (by decide) _⟩, ⟨by decide, by decide, hordered _ _ (by decide) (by decide)⟩,
    ⟨hone, htwo, (hnegative _ (-1) hone (by decide)).1 _ (by decide) htwo⟩,
    hfour, by decide, (hnegative _ (-4) hfour (by decide)).2 (by decide)⟩

end GatedFormula
