/-
  What operators do to operands, and which fault comes first.
  - `BinaryOperator.Takes` says which operands suit an operator. It has a result for these and complains about all
    others under its own symbol: `BinaryOperator.apply_cases`.
  - `Formula.binary_cases` and `Formula.result_unary`: a formula of an operator fails like an operand of it that fails;
    only if none does, the operator has its say.
  Main statement: `operators_defined`.
-/
import GatedFormula.Proofs.Equality
import GatedFormula.Proofs.Timing

namespace GatedFormula

/-- A text is looked up in vain among symbols if it is none of them. -/
theorem find?_symbol_eq_none_iff {α : Type} {all : List α} (hall : ∀ o, o ∈ all) {symbol : α → String} {s : String} :
    (all.find? fun o => symbol o == s) = none ↔ ∀ o, symbol o ≠ s := by
  rw [List.find?_eq_none]
  exact ⟨fun h o ho => h o (hall o) (beq_iff_eq.2 ho), fun h o _ ho => h o (eq_of_beq ho)⟩

/-! ## Binary operators -/

namespace BinaryOperator

variable {o : BinaryOperator} {symbol : String} {l r v : Value} {f : Fault}

theorem ofSymbol?_symbol (o : BinaryOperator) : ofSymbol? o.symbol = some o := by
  cases o <;> decide

theorem ofSymbol?_eq_none_iff : ofSymbol? symbol = none ↔ ∀ o : BinaryOperator, o.symbol ≠ symbol :=
  find?_symbol_eq_none_iff fun o => by cases o <;> decide

/-- The operands that suit an operator: any two values for a test of equality, two texts to join, and two numbers
for every operator. -/
inductive Takes : BinaryOperator → Value → Value → Prop
  | any {o : BinaryOperator} (h : o.isEquality) (l r : Value) : Takes o l r
  | texts (s t : String) : Takes .add (.text s) (.text t)
  | numbers (o : BinaryOperator) (x y : Float) : Takes o (.number x) (.number y)

theorem eq_add_of_not_isNumeric (he : ¬ o.isEquality) (hn : ¬ o.isNumeric) : o = .add := by
  cases o <;> first | rfl | exact absurd rfl he | exact absurd rfl hn

/-- **An operator has a result for the operands that suit it**, and a complaint under its own symbol for all others. -/
theorem apply_cases (o : BinaryOperator) (l r : Value) :
    (o.Takes l r ∧ ∃ v, o.apply l r = .ok v) ∨
      (¬ o.Takes l r ∧ ∃ cause, o.apply l r = .error (.mismatch o.symbol cause)) := by
  unfold apply
  split
  · exact .inl ⟨.any ‹_› l r, _, rfl⟩
  · rename_i he
    split
    · exact .inl ⟨.numbers .., _, rfl⟩
    · split
      · rename_i hn
        refine .inr ⟨?_, _, rfl⟩
        rintro (⟨h, -, -⟩ | ⟨s, t⟩)
        · exact he h
        · cases hn
      · obtain rfl := eq_add_of_not_isNumeric he ‹_›
        exact .inl ⟨.texts .., _, rfl⟩
    · rename_i hnumbers htexts
      refine .inr ⟨?_, _, rfl⟩
      rintro (⟨h, -, -⟩ | ⟨s, t⟩ | ⟨-, x, y⟩)
      · exact he h
      · exact htexts s t rfl rfl
      · exact hnumbers x y rfl rfl

theorem apply_isOk_iff : (∃ v, o.apply l r = .ok v) ↔ o.Takes l r := by
  rcases o.apply_cases l r with ⟨ht, h⟩ | ⟨ht, cause, h⟩
  · exact iff_of_true h ht
  · rw [h]
    exact iff_of_false nofun ht

theorem apply_eq_error (h : o.apply l r = .error f) : ∃ cause, f = .mismatch o.symbol cause := by
  rcases o.apply_cases l r with ⟨-, v, h'⟩ | ⟨-, cause, h'⟩
  · cases h.symm.trans h'
  · exact ⟨cause, Except.error.inj (h.symm.trans h')⟩

/-- Two numbers are compared, which gives a truth value, or computed with, which gives a number. -/
theorem onNumbers_cases (o : BinaryOperator) (x y : Float) :
    ((o.isEquality ∨ o.symbol ∈ ["<", ">", "<=", ">="]) ∧ ∃ b, o.onNumbers x y = .boolean b) ∨
      (¬ (o.isEquality ∨ o.symbol ∈ ["<", ">", "<=", ">="]) ∧ ∃ z, o.onNumbers x y = .number z) := by
  cases o with
  | less | greater | lessOrEqual | greaterOrEqual | equal | identical | unequal | notIdentical =>
    exact .inl ⟨by decide, _, rfl⟩
  | _ => exact .inr ⟨by decide, _, rfl⟩

theorem apply_numbers (he : ¬ o.isEquality) (x y : Float) :
    o.apply (.number x) (.number y) = .ok (o.onNumbers x y) := by
  unfold apply
  rw [if_neg he]

/-- Equality does not depend on the order of the operands. -/
theorem apply_comm_of_isEquality (he : o.isEquality) : o.apply r l = o.apply l r := by
  unfold apply
  rw [if_pos he, if_pos he, Value.same_comm]

theorem apply_add_eq_ok_iff : add.apply l r = .ok v ↔
    (∃ x y, l = .number x ∧ r = .number y ∧ v = .number (x + y)) ∨
      ∃ s t, l = .text s ∧ r = .text t ∧ v = .text (s ++ t) := by
  constructor
  · intro h
    obtain ⟨he, -, -⟩ | ⟨s, t⟩ | ⟨-, x, y⟩ := apply_isOk_iff.1 ⟨v, h⟩
    · cases he
    · exact .inr ⟨s, t, rfl, rfl, (Except.ok.inj h).symm⟩
    · exact .inl ⟨x, y, rfl, rfl, (Except.ok.inj h).symm⟩
  · rintro (⟨x, y, rfl, rfl, rfl⟩ | ⟨s, t, rfl, rfl, rfl⟩) <;> rfl

/-- All but tests of equality and adding take numbers only. -/
theorem takes_iff_of_isNumeric (hn : o.isNumeric) : o.Takes l r ↔ ∃ x y, l = .number x ∧ r = .number y := by
  constructor
  · rintro (⟨he, -, -⟩ | ⟨s, t⟩ | ⟨-, x, y⟩)
    · rw [isNumeric, he] at hn
      cases hn
    · cases hn
    · exact ⟨x, y, rfl, rfl⟩
  · rintro ⟨x, y, rfl, rfl⟩
    exact .numbers o x y

/-- The symbols of the operators that take more than two numbers. -/
theorem isNumeric_of_symbol (h : o.symbol ∉ ["==", "===", "!=", "!==", "+"]) : ¬ o.isEquality ∧ o.isNumeric := by
  cases o <;> first | exact ⟨nofun, rfl⟩ | exact absurd (by decide) h

/-- Comparisons of numbers give truth values, and all else that takes numbers only gives numbers. -/
theorem boolean_or_number (ho : o.symbol ∉ ["==", "===", "!=", "!==", "+"]) (h : o.apply l r = .ok v) :
    if o.symbol ∈ ["<", ">", "<=", ">="] then ∃ b, v = .boolean b else ∃ z, v = .number z := by
  obtain ⟨he, hn⟩ := isNumeric_of_symbol ho
  obtain ⟨x, y, rfl, rfl⟩ := (takes_iff_of_isNumeric hn).1 (apply_isOk_iff.1 ⟨v, h⟩)
  obtain rfl := Except.ok.inj ((apply_numbers he x y).symm.trans h)
  rcases o.onNumbers_cases x y with ⟨hc, b, hb⟩ | ⟨hc, z, hz⟩
  · rw [if_pos (hc.resolve_left he)]
    exact ⟨b, hb⟩
  · rw [if_neg fun h => hc (.inr h)]
    exact ⟨z, hz⟩

theorem applyBinary_symbol (o : BinaryOperator) (l r : Value) : applyBinary o.symbol l r = o.apply l r := by
  rw [applyBinary, ofSymbol?_symbol]

/-- A text that names no operator is a fault of its own, and no operator has that fault. -/
theorem applyBinary_eq_unknown_iff {t : String} :
    applyBinary symbol l r = .error (.unknownOperator t) ↔ t = symbol ∧ ∀ o : BinaryOperator, o.symbol ≠ symbol := by
  rw [← ofSymbol?_eq_none_iff, applyBinary]
  cases ofSymbol? symbol with
  | none => simp [eq_comm]
  | some o =>
    refine ⟨fun h => ?_, fun h => by cases h.2⟩
    obtain ⟨cause, hc⟩ := apply_eq_error h
    cases hc

end BinaryOperator

/-! ## Unary operators -/

namespace UnaryOperator

variable {o : UnaryOperator} {symbol : String} {v w : Value} {f : Fault}

theorem ofSymbol?_symbol (o : UnaryOperator) : ofSymbol? o.symbol = some o := by
  cases o <;> decide

theorem ofSymbol?_eq_none_iff : ofSymbol? symbol = none ↔ ∀ o : UnaryOperator, o.symbol ≠ symbol :=
  find?_symbol_eq_none_iff fun o => by cases o <;> decide

/-- What takes numbers only gives a number for a number, and a complaint under its own symbol for anything else. -/
theorem apply_cases (hn : o.isNumeric) (v : Value) :
    (∃ x, v = .number x ∧ ∃ y, o.apply v = .ok (.number y)) ∨
      ((∀ x, v ≠ .number x) ∧ ∃ cause, o.apply v = .error (.mismatch o.symbol cause)) := by
  unfold apply
  rw [if_pos hn]
  split
  · rename_i x
    refine .inl ⟨x, rfl, ?_⟩
    cases o <;> exact ⟨_, rfl⟩
  · rename_i hv
    exact .inr ⟨hv, _, rfl⟩

theorem apply_eq_error (h : o.apply v = .error f) : ∃ cause, f = .mismatch o.symbol cause := by
  by_cases hn : o.isNumeric
  · rcases apply_cases hn v with ⟨-, -, y, h'⟩ | ⟨-, cause, h'⟩
    · cases h.symm.trans h'
    · exact ⟨cause, Except.error.inj (h.symm.trans h')⟩
  · unfold apply at h
    rw [if_neg hn] at h
    cases h

theorem applyUnary_symbol (o : UnaryOperator) (v : Value) : applyUnary o.symbol v = o.apply v := by
  rw [applyUnary, ofSymbol?_symbol]

theorem applyUnary_eq_unknown_iff {t : String} :
    applyUnary symbol v = .error (.unknownOperator t) ↔ t = symbol ∧ ∀ o : UnaryOperator, o.symbol ≠ symbol := by
  rw [← ofSymbol?_eq_none_iff, applyUnary]
  cases ofSymbol? symbol with
  | none => simp [eq_comm]
  | some o =>
    refine ⟨fun h => ?_, fun h => by cases h.2⟩
    obtain ⟨cause, hc⟩ := apply_eq_error h
    cases hc

end UnaryOperator

/-! ## Faults of operands -/

namespace Formula

variable {s : Setting} {op : String} {p : Place} {l r : Formula} {f : Fault}

theorem result_timeline (s : Setting) (f : Formula) (p : Place) :
    (evaluate s f p).result = (f.timeline s p 0).result :=
  congrArg Timed.result (evaluate_timed s f p)

/-- **A formula of two operands fails like one of them that fails.** If none does, the operator has its say. -/
theorem binary_cases (s : Setting) (op : String) (l r : Formula) (p : Place) :
    (∃ x y, (evaluate s l (p.child 0)).result = .ok x ∧ (evaluate s r (p.child 1)).result = .ok y ∧
      (evaluate s (.binary op l r) p).result =
        (applyBinary op x.value y.value).map fun v => .node v [x, y]) ∨
      ∃ f, (evaluate s (.binary op l r) p).result = .error f ∧
        ((evaluate s l (p.child 0)).result = .error f ∨ (evaluate s r (p.child 1)).result = .error f) := by
  simp only [result_timeline, timeline]
  rcases Timed.pair_cases (timeline s l (p.child 0) 0) (timeline s r (p.child 1) 0) with
    ⟨x, y, hx, hy, hp⟩ | ⟨f, hf, hp⟩ | ⟨f, hf, hp⟩
  · rw [hp]
    exact .inl ⟨x, y, hx, hy, rfl⟩
  · rw [hp]
    exact .inr ⟨f, rfl, .inl hf⟩
  · rw [hp]
    exact .inr ⟨f, rfl, .inr hf⟩

theorem binary_of_error
    (h : (evaluate s l (p.child 0)).result = .error f ∨ (evaluate s r (p.child 1)).result = .error f) :
    ∃ g, (evaluate s (.binary op l r) p).result = .error g ∧
      ((evaluate s l (p.child 0)).result = .error g ∨ (evaluate s r (p.child 1)).result = .error g) := by
  rcases binary_cases s op l r p with ⟨x, y, hx, hy, -⟩ | hg
  · rcases h with h | h
    · cases hx.symm.trans h
    · cases hy.symm.trans h
  · exact hg

theorem result_binary_of_ok {x y : Outcome} (hx : (evaluate s l (p.child 0)).result = .ok x)
    (hy : (evaluate s r (p.child 1)).result = .ok y) : (evaluate s (.binary op l r) p).result =
      (applyBinary op x.value y.value).map fun v => .node v [x, y] := by
  rcases binary_cases s op l r p with ⟨x', y', hx', hy', h⟩ | ⟨f, -, hf | hf⟩
  · obtain rfl := Except.ok.inj (hx.symm.trans hx')
    obtain rfl := Except.ok.inj (hy.symm.trans hy')
    exact h
  · cases hx.symm.trans hf
  · cases hy.symm.trans hf

/-- A formula of one operand fails like it. If it does not fail, the operator has its say. -/
theorem result_unary (s : Setting) (op : String) (a : Formula) (isPrefix : Bool) (p : Place) :
    (evaluate s (.unary op a isPrefix) p).result = (evaluate s a (p.child 0)).result.bind fun x =>
      (applyUnary op x.value).map fun v => .node v [x] := by
  rw [result_timeline, result_timeline, timeline, Timed.after]
  cases (timeline s a (p.child 0) 0).result <;> rfl

/-- A left operand that decides fails before its operator is looked at. -/
theorem result_logical_of_error (h : (evaluate s l (p.child 0)).result = .error f) :
    (evaluate s (.logical op l r) p).result = .error f := by
  rw [result_timeline] at h
  rw [result_timeline, timeline, Timed.after, h]

end Formula

/-- **Operators are defined where they should be.** Only a text that names no operator is unknown. Tests of equality
take all values, in either order. To add takes two numbers or two texts, which it joins, and everything else takes two
numbers, which it compares or computes with; any other operands are a complaint under the symbol of the operator. Of
one operand, `!` takes every value and all others take a number. A fault of an operand comes before all that. -/
theorem operators_defined :
    (∀ (symbol t : String) (l r : Value), applyBinary symbol l r = .error (.unknownOperator t) ↔
      t = symbol ∧ ∀ o : BinaryOperator, o.symbol ≠ symbol) ∧
    (∀ l r : Value, applyBinary "==" l r = .ok (.boolean (l.same r)) ∧ applyBinary "===" l r = applyBinary "==" l r ∧
      applyBinary "!=" l r = .ok (.boolean !l.same r) ∧ applyBinary "!==" l r = applyBinary "!=" l r ∧
      ∀ symbol ∈ ["==", "===", "!=", "!=="], applyBinary symbol r l = applyBinary symbol l r) ∧
    (∀ l r v : Value, applyBinary "+" l r = .ok v ↔
      (∃ x y, l = .number x ∧ r = .number y ∧ v = .number (x + y)) ∨
        ∃ s t, l = .text s ∧ r = .text t ∧ v = .text (s ++ t)) ∧
    (∀ o : BinaryOperator, o.symbol ∉ ["==", "===", "!=", "!==", "+"] → ∀ l r : Value,
      ((∃ v, applyBinary o.symbol l r = .ok v) ↔ ∃ x y, l = .number x ∧ r = .number y) ∧
      ∀ v, applyBinary o.symbol l r = .ok v →
        if o.symbol ∈ ["<", ">", "<=", ">="] then ∃ b, v = .boolean b else ∃ z, v = .number z) ∧
    (∀ (o : BinaryOperator) (l r : Value) (f : Fault), applyBinary o.symbol l r = .error f →
      ∃ cause, f = .mismatch o.symbol cause) ∧
    (∀ (symbol t : String) (v : Value), applyUnary symbol v = .error (.unknownOperator t) ↔
      t = symbol ∧ ∀ o : UnaryOperator, o.symbol ≠ symbol) ∧
    (∀ v : Value, applyUnary "!" v = .ok (.boolean !v.isTruthy)) ∧
    (∀ symbol ∈ ["-", "+", "~"], ∀ v : Value,
      ((∃ w, applyUnary symbol v = .ok w) ↔ ∃ x, v = .number x) ∧
      ∀ w, applyUnary symbol v = .ok w → ∃ y, w = .number y) ∧
    (∀ (o : UnaryOperator) (v : Value) (f : Fault), applyUnary o.symbol v = .error f →
      ∃ cause, f = .mismatch o.symbol cause) ∧
    ∀ (s : Setting) (op : String) (a l r : Formula) (isPrefix : Bool) (p : Place),
      let run (f : Formula) (p : Place) := (evaluate s f p).result
      (∀ f, run l (p.child 0) = .error f ∨ run r (p.child 1) = .error f →
        ∃ g, run (.binary op l r) p = .error g ∧ (run l (p.child 0) = .error g ∨ run r (p.child 1) = .error g)) ∧
      (∀ x y, run l (p.child 0) = .ok x → run r (p.child 1) = .ok y →
        run (.binary op l r) p = (applyBinary op x.value y.value).map fun v => .node v [x, y]) ∧
      (∀ f, run a (p.child 0) = .error f → run (.unary op a isPrefix) p = .error f) ∧
      (∀ x, run a (p.child 0) = .ok x →
        run (.unary op a isPrefix) p = (applyUnary op x.value).map fun v => .node v [x]) ∧
      ∀ f, run l (p.child 0) = .error f → run (.logical op l r) p = .error f := by
  refine ⟨fun symbol t l r => BinaryOperator.applyBinary_eq_unknown_iff, fun l r => ⟨rfl, rfl, rfl, rfl, ?_⟩,
    fun l r v => ?_, fun o ho l r => ?_, fun o l r f h => ?_, fun symbol t v => UnaryOperator.applyUnary_eq_unknown_iff,
    fun v => rfl, fun symbol hs v => ?_, fun o v f h => ?_, fun s op a l r isPrefix p => ?_⟩
  · intro symbol hs
    simp only [List.mem_cons, List.not_mem_nil, or_false] at hs
    rcases hs with rfl | rfl | rfl | rfl
    · exact BinaryOperator.apply_comm_of_isEquality (o := .equal) rfl
    · exact BinaryOperator.apply_comm_of_isEquality (o := .identical) rfl
    · exact BinaryOperator.apply_comm_of_isEquality (o := .unequal) rfl
    · exact BinaryOperator.apply_comm_of_isEquality (o := .notIdentical) rfl
  · exact BinaryOperator.apply_add_eq_ok_iff
  · rw [BinaryOperator.applyBinary_symbol, BinaryOperator.apply_isOk_iff,
      BinaryOperator.takes_iff_of_isNumeric (BinaryOperator.isNumeric_of_symbol ho).2]
    exact ⟨Iff.rfl, fun v => BinaryOperator.boolean_or_number ho⟩
  · rw [BinaryOperator.applyBinary_symbol] at h
    exact BinaryOperator.apply_eq_error h
  · obtain ⟨o, rfl, hn⟩ : ∃ o : UnaryOperator, o.symbol = symbol ∧ o.isNumeric := by
      simp only [List.mem_cons, List.not_mem_nil, or_false] at hs
      rcases hs with rfl | rfl | rfl
      · exact ⟨.negate, rfl, rfl⟩
      · exact ⟨.plus, rfl, rfl⟩
      · exact ⟨.bitNot, rfl, rfl⟩
    rw [UnaryOperator.applyUnary_symbol]
    rcases UnaryOperator.apply_cases hn v with ⟨x, rfl, y, h⟩ | ⟨hv, cause, h⟩
    · rw [h]
      exact ⟨iff_of_true ⟨_, rfl⟩ ⟨x, rfl⟩, fun w hw => ⟨y, (Except.ok.inj hw).symm⟩⟩
    · rw [h]
      exact ⟨iff_of_false nofun fun ⟨x, hx⟩ => hv x hx, nofun⟩
  · rw [UnaryOperator.applyUnary_symbol] at h
    exact UnaryOperator.apply_eq_error h
  · intro run
    refine ⟨fun f => Formula.binary_of_error, fun x y => Formula.result_binary_of_ok, fun f hf => ?_,
      fun x hx => ?_, fun f => Formula.result_logical_of_error⟩
    · exact (Formula.result_unary s op a isPrefix p).trans (congrArg (Except.bind · _) hf)
    · exact (Formula.result_unary s op a isPrefix p).trans (congrArg (Except.bind · _) hx)

/-- There is no lid to raise to a power, whatever `**` may be, and what is there is no number to compare. -/
theorem operators_defined_lid :
    let run (f : Formula) := (evaluate Setting.sample f (.root 3)).result
    let label : Formula := .member (.name "box") (.name "label") false
    (applyBinary "**" .undefined .undefined = .error (.unknownOperator "**") ∧
      run (.binary "**" (.name "lid") label) = .error (.notFound "lid") ∧
      run (.unary "~" (.name "lid") true) = .error (.notFound "lid")) ∧
    ("<" ∉ ["==", "===", "!=", "!==", "+"] ∧ ∃ cause, applyBinary "<" (.text "x") (.text "y") = .error cause ∧
      ∃ why, cause = .mismatch "<" why) ∧
    ("!=" ∈ ["==", "===", "!=", "!=="] ∧
      applyBinary "!=" (.text "x") .undefined = applyBinary "!=" .undefined (.text "x")) ∧
    ("-" ∈ ["-", "+", "~"] ∧ ¬ ∃ w, applyUnary "-" (.text "x") = .ok w) := by
  intro run label
  obtain ⟨hunknown, hequal, -, hnumeric, hmismatch, -, -, hminus, -, hfaults⟩ := operators_defined
  have hfaults (op : String) := hfaults Setting.sample op (.name "lid") (.name "lid") label true (.root 3)
  obtain ⟨hbinary, -⟩ := hfaults "**"
  obtain ⟨-, -, hunary, -⟩ := hfaults "~"
  refine ⟨⟨(hunknown _ _ _ _).2 ⟨rfl, fun o => by cases o <;> decide⟩, ?_, hunary (.notFound "lid") rfl⟩,
    ⟨by decide, ?_⟩, ⟨by decide, (hequal _ _).2.2.2.2 "!=" (by decide)⟩, by decide, fun h => ?_⟩
  · obtain ⟨g, hg, hl | hr⟩ := hbinary (.notFound "lid") (.inl rfl)
    · obtain rfl : Fault.notFound "lid" = g := Except.error.inj hl
      exact hg
    · cases hr
  · have hnot := (hnumeric .less (by decide) (.text "x") (.text "y")).1
    cases h : applyBinary "<" (.text "x") (.text "y") with
    | ok v =>
      obtain ⟨x, -, hx, -⟩ := hnot.1 ⟨v, h⟩
      cases hx
    | error f => exact ⟨f, rfl, hmismatch .less _ _ f h⟩
  · obtain ⟨x, hx⟩ := (hminus "-" (by decide) (.text "x")).1.1 h
    cases hx

end GatedFormula
