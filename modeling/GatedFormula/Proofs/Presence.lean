/-
  The standard checks open what is there and nothing else.
  - `Value.Keeps` says which member stands in a record or an array under a key, `Value.IsContainer` which values keep
    members, `Value.IsBare` which have none and are no texts.
  - `ownMember_iff`: own members are approved of exactly where something is kept, and `member_of_keeps` is that.
  - `permits_standard_iff` says what the standard policy opens.
  Main statement: `standard_present`.
-/
import GatedFormula.Policy
import GatedFormula.Proofs.Denotation

namespace GatedFormula

namespace Value

/-- A record keeps a member under the text of a key, an array an item under the index of a key. -/
inductive Keeps : Value → Key → Value → Prop
  | member {id : Place} {members : List (String × Value)} {k : Key} {m : Value} (h : members.lookup k.text = some m) :
      Keeps (.record id members) k m
  | item {id : Place} {items : List Value} {k : Key} {i : ℕ} {m : Value} (hk : k.index? = some i)
      (h : items[i]? = some m) : Keeps (.array id items) k m

/-- Records and arrays keep members. -/
inductive IsContainer : Value → Prop
  | record (id : Place) (members : List (String × Value)) : IsContainer (.record id members)
  | array (id : Place) (items : List Value) : IsContainer (.array id items)

/-- Values that have no members at all. -/
inductive IsBare : Value → Prop
  | undefined : IsBare .undefined
  | number (x : Float) : IsBare (.number x)
  | boolean (b : Bool) : IsBare (.boolean b)
  | function (f : Function) (receiver : Option Value) : IsBare (.function f receiver)
  | pattern (id : Place) (p : Pattern) : IsBare (.pattern id p)

variable {v m : Value} {k : Key}

theorem Keeps.stored?_eq (h : v.Keeps k m) : v.stored? k = some m := by
  cases h with
  | member h => exact h
  | item hk h => rw [stored?, hk, Option.bind_some, h]

theorem member_of_keeps (h : v.Keeps k m) : v.member k = bound v m := by rw [member, h.stored?_eq]

theorem bound_eq_undefined_iff {receiver : Value} : bound receiver m = .undefined ↔ m = .undefined := by
  cases m <;> simp [bound]

end Value

variable {v : Value} {k : Key}

/-- **Own members are approved of where something is kept.** -/
theorem Check.ownMember_iff : Check.ownMember v k ↔ ∃ m, v.Keeps k m := by
  constructor
  · intro h
    cases v with
    | record id members =>
      obtain ⟨m, hm⟩ := Option.isSome_iff_exists.1 h
      exact ⟨m, .member hm⟩
    | array id items =>
      cases hk : k.index? with
      | none => simp [ownMember, hk] at h
      | some i =>
        have hi : i < items.length := by simpa [ownMember, hk] using h
        exact ⟨items[i], .item hk (List.getElem?_eq_getElem hi)⟩
    | _ => cases h
  · rintro ⟨m, h | ⟨hk, h⟩⟩
    · simp [ownMember, h]
    · obtain ⟨hi, -⟩ := List.getElem?_eq_some_iff.1 h
      simp [ownMember, hk, hi]

/-- Where a record or an array keeps nothing, nothing is read. -/
theorem Value.member_of_not_keeps (hv : v.IsContainer) (h : ¬ ∃ m, v.Keeps k m) : v.member k = .undefined := by
  have hnone : v.stored? k = none := by
    rw [Option.eq_none_iff_forall_ne_some]
    intro m hm
    refine h ⟨m, ?_⟩
    cases hv with
    | record id members => exact .member hm
    | array id items =>
      obtain ⟨i, hk, hi⟩ := Option.bind_eq_some_iff.1 hm
      exact .item hk hi
  rw [Value.member, hnone]

/-- **What the standard policy opens:** what is kept, indices into texts and the methods of texts. -/
theorem permits_standard_iff : Policy.standard.permits v k ↔
    (∃ m, v.Keeps k m) ∨ ∃ s, v = .text s ∧
      ((∃ i, k.index? = some i) ∨ ∃ n f, k = .name n ∧ TextMethod.named? n = some f) := by
  have hindex : Check.textIndex v k ↔ ∃ s, v = .text s ∧ ∃ i, k.index? = some i := by
    cases v <;> simp [Check.textIndex, Option.isSome_iff_exists]
  have hmethod : Check.textMethod v k ↔
      ∃ s, v = .text s ∧ ∃ n f, k = .name n ∧ TextMethod.named? n = some f := by
    cases v <;> cases k <;> simp [Check.textMethod, Option.isSome_iff_exists]
  simp only [Policy.permits, Policy.standard, List.any_cons, List.any_nil, Bool.or_eq_true, Check.ownMember_iff,
    hindex, hmethod, Bool.or_false, ← exists_or, ← and_or_left]

/-- A text holds something at an index before its end, and nothing from there on. -/
theorem Value.member_text_eq_undefined_iff {s : String} {i : ℕ} (hi : k.index? = some i) :
    (Value.text s).member k = .undefined ↔ s.length ≤ i := by
  cases k with
  | name n => cases hi
  | number x =>
    rw [← String.length_toList, ← List.getElem?_eq_none_iff]
    simp only [Value.member, Value.stored?, hi, Option.bind_some]
    cases s.toList[i]? <;> simp [Value.bound]

theorem readMember_standard_of_permits (h : Policy.standard.permits v k) :
    readMember (some .standard) v k = .ok (v.member k) := if_pos h

theorem readMember_standard_of_not_permits (h : ¬ Policy.standard.permits v k) :
    readMember (some .standard) v k = .error (denial v k) := if_neg h

/-- **Under the standard policy nothing is read only where nothing is kept,** or beyond the end of a text. -/
theorem readMember_standard_eq_undefined_iff : readMember (some .standard) v k = .ok .undefined ↔
    v.Keeps k .undefined ∨ ∃ s i, v = .text s ∧ k.index? = some i ∧ s.length ≤ i := by
  constructor
  · intro h
    by_cases hp : Policy.standard.permits v k
    · rw [readMember_standard_of_permits hp, Except.ok.injEq] at h
      rcases permits_standard_iff.1 hp with ⟨m, hm⟩ | ⟨s, rfl, ⟨i, hi⟩ | ⟨n, f, rfl, hf⟩⟩
      · rw [Value.member_of_keeps hm, Value.bound_eq_undefined_iff] at h
        exact .inl (h ▸ hm)
      · exact .inr ⟨s, i, rfl, hi, (Value.member_text_eq_undefined_iff hi).1 h⟩
      · simp [Value.member, Value.stored?, hf, Value.bound] at h
    · rw [readMember_standard_of_not_permits hp] at h
      cases h
  · rintro (h | ⟨s, i, rfl, hi, hlen⟩)
    · rw [readMember_standard_of_permits (permits_standard_iff.2 (.inl ⟨_, h⟩)), Value.member_of_keeps h]
      rfl
    · rw [readMember_standard_of_permits (permits_standard_iff.2 (.inr ⟨s, rfl, .inl ⟨i, hi⟩⟩)),
        (Value.member_text_eq_undefined_iff hi).2 hlen]

theorem Value.IsBare.not_permits_standard (h : v.IsBare) : ¬ Policy.standard.permits v k := by
  rw [permits_standard_iff]
  rintro (⟨m, hm⟩ | ⟨s, rfl, -⟩)
  · cases h <;> cases hm
  · cases h

/-- **The standard checks open what is there and nothing else.** The index of a key is the count that its number
denotes, up to the largest index. Own members are approved of where a record or an array keeps something, which is then
what is read, a function bound to where it was read from; where one of them keeps nothing, nothing would be read. Under
the standard policy, reading succeeds with nothing only where that is what is kept, or beyond the end of a text, and
values without members cannot be read at all. -/
theorem standard_present :
    (∀ (k : Key) (i : ℕ), k.index? = some i ↔ ∃ (x : Float) (n : ℕ),
      k = .number x ∧ Number.value? x = some (n : ℚ) ∧ n ≤ 2 ^ 64 ∧ i = min n Key.lastIndex) ∧
    (∀ (v : Value) (k : Key), Check.ownMember v k ↔ ∃ m, v.Keeps k m) ∧
    (∀ (v : Value) (k : Key) (m : Value), v.Keeps k m →
      (∀ f receiver, m = .function f receiver → v.member k = .function f (some v)) ∧
      ((∀ f receiver, m ≠ .function f receiver) → v.member k = m)) ∧
    (∀ (v : Value) (k : Key), v.IsContainer → ¬ Check.ownMember v k → v.member k = .undefined) ∧
    (∀ (v : Value) (k : Key), readMember (some .standard) v k = .ok .undefined ↔
      v.Keeps k .undefined ∨ ∃ s i, v = .text s ∧ k.index? = some i ∧ s.length ≤ i) ∧
    (∀ (v : Value) (k : Key), v.IsBare → readMember (some .standard) v k = .error (denial v k)) := by
  refine ⟨fun k i => ?_, fun v k => Check.ownMember_iff, fun v k m h => ?_, fun v k hv h => ?_,
    fun v k => readMember_standard_eq_undefined_iff,
    fun v k h => readMember_standard_of_not_permits h.not_permits_standard⟩
  · cases k with
    | name n => exact ⟨nofun, fun ⟨_, _, hx, _⟩ => nomatch hx⟩
    | number x =>
      rw [Key.index?_eq_some_iff]
      constructor
      · rintro ⟨n, h⟩
        exact ⟨x, n, rfl, h⟩
      · rintro ⟨_, n, ⟨⟩, h⟩
        exact ⟨n, h⟩
  · rw [Value.member_of_keeps h]
    constructor
    · rintro f receiver rfl
      rfl
    · intro hm
      cases m with
      | function f receiver => exact absurd rfl (hm f receiver)
      | _ => rfl
  · exact Value.member_of_not_keeps hv (mt Check.ownMember_iff.2 h)

/-- A method in a record is read bound to the record, and an array keeps nothing that is there at `1`. Beyond these,
and beyond the end of a text, nothing is read, and a number cannot be read at all. -/
theorem standard_present_mixed :
    let trim : Value := .function (.method .trim) none
    let box : Value := .record (.root 0) [("trim", trim)]
    let row : Value := .array (.root 1) [.boolean true, .undefined]
    let one : Key := .number (Number.ofWhole 1)
    let five : Key := .number (Number.ofWhole 5)
    (box.Keeps (.name "trim") trim ∧ box.member (.name "trim") = .function (.method .trim) (some box)) ∧
    (row.Keeps one .undefined ∧ readMember (some .standard) row one = .ok .undefined) ∧
    (row.IsContainer ∧ ¬ Check.ownMember row five ∧ row.member five = .undefined) ∧
    (five.index? = some 5 ∧ readMember (some .standard) (.text "two") five = .ok .undefined) ∧
    ((Value.number Number.nan).IsBare ∧
      readMember (some .standard) (.number Number.nan) one = .error (denial (.number Number.nan) one)) := by
  intro trim box row one five
  obtain ⟨-, -, hread, hnone, hundefined, hbare⟩ := standard_present
  have hone : one.index? = some 1 := by decide
  have hfive : five.index? = some 5 := by decide
  have htrim : box.Keeps (.name "trim") trim := .member rfl
  have hrow : row.Keeps one .undefined := .item hone rfl
  have hnot : ¬ Check.ownMember row five := by decide
  have hcontainer : row.IsContainer := .array _ _
  refine ⟨⟨htrim, (hread box _ trim htrim).1 _ _ rfl⟩, ⟨hrow, (hundefined row one).2 (.inl hrow)⟩,
    ⟨hcontainer, hnot, hnone row five hcontainer hnot⟩, ⟨hfive, ?_⟩, .number _, hbare _ one (.number _)⟩
  exact (hundefined _ five).2 (.inr ⟨"two", 5, rfl, hfive, by decide⟩)

end GatedFormula
