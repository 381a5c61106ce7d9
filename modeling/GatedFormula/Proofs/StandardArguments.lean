/-
  The signatures of the standard functions against what the functions do.
  - `Signature.accepts_values_iff`: where every position has to be there, a signature accepts values if each one
    is of its type.
  - `Standard.function?_signature`: a signature leads to its function in the standard context.
  - `Standard.succeeds_iff`: a function of numbers succeeds on just the values that its signature accepts.
  - The function for patterns takes a source and flags (`Standard.accepts_regex_iff`). On these it does what
    `Pattern.make` does (`Standard.makePattern_of_texts`), and without them it complains about an argument
    (`Standard.makePattern_of_not_texts`).
  Main statement: `signatures_agree`.
-/
import GatedFormula.Evaluation.Host
import GatedFormula.Signature.Standard

namespace GatedFormula

namespace Argument

/-- A number is had from an argument if it is one. -/
theorem number_isOk_iff (function : String) {vs : List Value} {i : Nat} :
    (∃ x, number function vs i = .ok x) ↔ (get vs i).typeName = .number := by
  unfold number
  cases get vs i <;> simp [Value.typeName]

theorem numbersOf_isOk_iff (function : String) {items : List Value} :
    (∃ xs, numbersOf function items = .ok xs) ↔ ∀ v ∈ items, v.typeName = .number := by
  induction items with
  | nil => simp [numbersOf]
  | cons v rest ih =>
    rw [List.forall_mem_cons, ← ih]
    cases v with
    | number x =>
      rw [numbersOf]
      cases numbersOf function rest <;> simp [Except.map, Value.typeName]
    | _ => simp [numbersOf, Value.typeName]

/-- Numbers are had from an argument if it is an array of numbers. -/
theorem numbers_isOk_iff (function : String) {vs : List Value} {i : Nat} :
    (∃ xs, numbers function vs i = .ok xs) ↔ ArgType.numberArray.accepts (.value (get vs i)) = true := by
  unfold numbers
  cases get vs i with
  | array id items => simp [numbersOf_isOk_iff, ArgType.accepts, ArgType.holds]
  | _ => simp [ArgType.accepts, ArgType.holds]

end Argument

namespace Signature

open Argument (get)

variable {sig : Signature}

theorem acceptsAt_value_of_lt {i : Nat} {v : Value} {t : ArgType} (h : i < sig.requiredCount) :
    sig.acceptsAt i (.value v) t = t.accepts (.value v) := by
  cases v with
  | undefined => simp [acceptsAt, Nat.not_le.2 h]
  | _ => rfl

theorem acceptsFrom_values_iff {i : Nat} {vs : List Value} {types : List ArgType}
    (hlen : types.length ≤ vs.length) (hreq : i + types.length ≤ sig.requiredCount) :
    sig.acceptsFrom i (vs.map .value) types = true ↔
      ∀ (j : Nat) (t : ArgType), types[j]? = some t → t.accepts (.value (get vs j)) = true := by
  induction types generalizing i vs with
  | nil => simp [acceptsFrom]
  | cons t types ih =>
    obtain _ | ⟨v, vs⟩ := vs
    · cases hlen
    rw [List.length_cons] at hreq
    rw [List.map_cons, acceptsFrom, Bool.and_eq_true, acceptsAt_value_of_lt (by omega),
      ih (Nat.le_of_succ_le_succ hlen) (by omega)]
    constructor
    · rintro ⟨hv, hr⟩ (_ | j) u hu
      · obtain rfl := Option.some.inj hu
        exact hv
      · exact hr j u hu
    · intro h
      exact ⟨h 0 t rfl, fun j u hu => h (j + 1) u hu⟩

/-- **Values are accepted if each is of its type**, where all positions are required and no type takes a missing
value. -/
theorem accepts_values_iff {types : List ArgType} (hargs : sig.args = .positional types)
    (hreq : sig.requiredCount = types.length) (hthere : ∀ t ∈ types, t.accepts (.value .undefined) = false)
    (vs : List Value) : sig.accepts (vs.map .value) = true ↔
      ∀ (j : Nat) (t : ArgType), types[j]? = some t → t.accepts (.value (get vs j)) = true := by
  simp only [accepts, hargs, Bool.and_eq_true, decide_eq_true_eq, List.length_map, hreq]
  by_cases hlen : types.length ≤ vs.length
  · simp only [hlen, true_and]
    exact acceptsFrom_values_iff hlen (by omega)
  · simp only [hlen, false_and, false_iff]
    intro h
    -- the first position without a value
    have hlt : vs.length < types.length := by omega
    have ht := h vs.length types[vs.length] (List.getElem?_eq_getElem hlt)
    have hget : get vs vs.length = .undefined := by simp [Argument.get]
    rw [hget, hthere _ (List.getElem_mem hlt)] at ht
    cases ht

theorem accepts_pair {t u : ArgType} (hargs : sig.args = .positional [t, u]) (d e : Descriptor)
    (rest : List Descriptor) : sig.accepts (d :: e :: rest) =
      (decide (sig.requiredCount ≤ rest.length + 2) && (sig.acceptsAt 0 d t && sig.acceptsAt 1 e u)) := by
  simp [accepts, hargs, acceptsFrom]

end Signature

namespace Standard

open Argument (get)

/-- The function that a signature is of, in the standard context: the member of its name in the record of its
path. -/
def function? (id : Place) (sig : Signature) : Option Function :=
  match sig.path, sig.name with
  | [.name record], some name =>
    ((context id).get? record).bind fun r => (r.member (.name name)).function?
  | _, _ => none

theorem names_zipIdx {α β : Type} (l : List α) (name : α → String) (g : α → Nat → β) :
    (l.zipIdx.map fun (a, i) => (name a, g a i)).map Prod.fst = l.map name := by
  rw [List.map_map]
  change l.zipIdx.map (name ∘ Prod.fst) = _
  rw [← List.map_map, List.zipIdx_map_fst]

theorem context_get? {name : String} {fs : List StandardFunction} (h : (name, fs) ∈ records) (id : Place) :
    ∃ i, (context id).get? name = some (record (id.child i) fs) := by
  obtain ⟨i, hi⟩ := List.getElem?_of_mem h
  refine ⟨i, OrderedMap.get?_of_mem _ ?_⟩
  rw [context, OrderedMap.entries_ofList]
  · exact List.mem_map.2 ⟨((name, fs), i), List.mem_zipIdx_iff_getElem?.2 hi, rfl⟩
  · rw [names_zipIdx records Prod.fst fun e i => record (id.child i) e.2]
    decide

theorem record_member {fs : List StandardFunction} (hfs : (fs.map StandardFunction.name).Nodup)
    {f : StandardFunction} (h : f ∈ fs) (id : Place) :
    ∃ i, (record id fs).member (.name f.name) = .function (.standard (id.child i) f) (some (record id fs)) := by
  obtain ⟨i, hi⟩ := List.getElem?_of_mem h
  have hm : (members id fs).get? f.name = some (.function (.standard (id.child i) f) none) := by
    refine OrderedMap.get?_of_mem _ ?_
    rw [members, OrderedMap.entries_ofList]
    · exact List.mem_map.2 ⟨(f, i), List.mem_zipIdx_iff_getElem?.2 hi, rfl⟩
    · rw [names_zipIdx fs StandardFunction.name fun f i => Value.function (.standard (id.child i) f) none]
      exact hfs
  have hs : (record id fs).stored? (.name f.name) = some (.function (.standard (id.child i) f) none) := hm
  exact ⟨i, by rw [Value.member, hs]; rfl⟩

/-- No function of a standard record has another's name. -/
theorem nodup_names : ∀ e ∈ records, (e.2.map StandardFunction.name).Nodup := by decide

/-- **A signature leads to its function** in the standard context. -/
theorem function?_signature {name : String} {fs : List StandardFunction} (hfs : (name, fs) ∈ records)
    {f : StandardFunction} (hf : f ∈ fs) (id : Place) :
    ∃ place, function? id (signature name f) = some (.standard place f) := by
  obtain ⟨i, hi⟩ := context_get? hfs id
  obtain ⟨j, hj⟩ := record_member (nodup_names _ hfs) hf (id.child i)
  exact ⟨(id.child i).child j, by simp [function?, signature, hi, hj, Value.function?]⟩

theorem entries_signatures : signatures.entries =
    convertFunctions.map (fun f => ("Convert." ++ f.name, signature "Convert" f)) ++
      mathFunctions.map (fun f => (mathName ++ "." ++ f.name, signature mathName f)) ++
      textFunctions.map (fun f => ("String." ++ f.name, signature "String" f)) := rfl

theorem mem_signatures {e : String × Signature} : e ∈ signatures.entries ↔
    ∃ name fs, (name, fs) ∈ records ∧ ∃ f ∈ fs, e = (name ++ "." ++ f.name, signature name f) := by
  rw [entries_signatures]
  constructor
  · intro he
    simp only [List.mem_append, List.mem_map] at he
    obtain (⟨f, hf, rfl⟩ | ⟨f, hf, rfl⟩) | ⟨f, hf, rfl⟩ := he
    · exact ⟨"Convert", convertFunctions, by simp [records], f, hf, rfl⟩
    · exact ⟨mathName, mathFunctions, by simp [records], f, hf, rfl⟩
    · exact ⟨"String", textFunctions, by simp [records], f, hf, rfl⟩
  · rintro ⟨name, fs, hr, f, hf, rfl⟩
    simp only [List.mem_append, List.mem_map]
    simp only [records, List.mem_cons, Prod.mk.injEq, List.not_mem_nil, or_false] at hr
    obtain ⟨rfl, rfl⟩ | ⟨rfl, rfl⟩ | ⟨rfl, rfl⟩ := hr
    · exact .inl (.inr ⟨f, hf, rfl⟩)
    · exact .inr ⟨f, hf, rfl⟩
    · exact .inl (.inl ⟨f, hf, rfl⟩)

/-- A signature is of a function in the record of its path. -/
theorem signature_of_path {e : String × Signature} (he : e ∈ signatures.entries) {name : String}
    {fs : List StandardFunction} (hr : (name, fs) ∈ records) (hp : e.2.path = [.name name]) :
    ∃ f ∈ fs, e.2 = signature name f := by
  obtain ⟨name', fs', hr', f, hf, rfl⟩ := mem_signatures.1 he
  obtain rfl : name' = name := by simpa [signature] using hp
  have hfs : fs' = fs := by
    simp only [records, List.mem_cons, Prod.mk.injEq, List.not_mem_nil, or_false] at hr hr'
    obtain ⟨rfl, rfl⟩ | ⟨rfl, rfl⟩ | ⟨rfl, rfl⟩ := hr <;> simpa [mathName] using hr'
  exact ⟨f, hfs ▸ hf, rfl⟩

/-! ## What functions accept -/

section
variable {f : StandardFunction} {record : String} {draw : Float} {site : Place} {vs : List Value}

theorem accepts_iff (hf : requiredOf f = none)
    (hthere : ∀ t ∈ argTypes f, t.accepts (.value .undefined) = false) :
    (signature record f).accepts (vs.map .value) = true ↔
      ∀ (j : Nat) (t : ArgType), (argTypes f)[j]? = some t → t.accepts (.value (get vs j)) = true :=
  Signature.accepts_values_iff rfl (by rw [Signature.requiredCount, signature, hf]) hthere vs

theorem accepts_unary_iff {f : UnaryMath} : (signature record (.unary f)).accepts (vs.map .value) = true ↔
    (get vs 0).typeName = .number := by
  rw [accepts_iff rfl (by simp [argTypes, ArgType.accepts, ArgType.hasType, Value.typeName])]
  simp [argTypes, ArgType.accepts, ArgType.hasType, List.getElem?_cons]

theorem accepts_binary_iff {f : BinaryMath} : (signature record (.binary f)).accepts (vs.map .value) = true ↔
    (get vs 0).typeName = .number ∧ (get vs 1).typeName = .number := by
  rw [accepts_iff rfl (by simp [argTypes, ArgType.accepts, ArgType.hasType, Value.typeName])]
  constructor
  · intro h
    simpa [ArgType.accepts, ArgType.hasType] using And.intro (h 0 .number rfl) (h 1 .number rfl)
  · rintro ⟨h0, h1⟩ (_ | _ | j) t ht
    · cases ht
      simpa [ArgType.accepts, ArgType.hasType] using h0
    · cases ht
      simpa [ArgType.accepts, ArgType.hasType] using h1
    · cases ht

theorem accepts_list_iff {f : ListMath} : (signature record (.list f)).accepts (vs.map .value) = true ↔
    ArgType.numberArray.accepts (.value (get vs 0)) = true := by
  rw [accepts_iff rfl (by simp [argTypes, ArgType.accepts, ArgType.holds])]
  simp [argTypes, List.getElem?_cons]

/-- **A function of numbers succeeds on the values that its signature accepts**, and on no others. -/
theorem succeeds_iff (hf : f ∈ mathFunctions) : (signature record f).accepts (vs.map .value) = true ↔
    ∃ v, f.apply draw vs site = .ok v := by
  cases f with
  | random => simp [signature, argTypes, Signature.accepts, Signature.acceptsFrom, Signature.requiredCount,
      requiredOf, StandardFunction.apply]
  | unary f =>
    rw [accepts_unary_iff, ← Argument.number_isOk_iff (inMath f.name), StandardFunction.apply,
      UnaryMath.apply]
    cases Argument.number (inMath f.name) vs 0 <;> simp [bind, Except.bind]
  | binary f =>
    rw [accepts_binary_iff, ← Argument.number_isOk_iff (inMath f.name),
      ← Argument.number_isOk_iff (inMath f.name), StandardFunction.apply, BinaryMath.apply]
    cases Argument.number (inMath f.name) vs 0 <;> cases Argument.number (inMath f.name) vs 1 <;>
      simp [bind, Except.bind]
  | list f =>
    rw [accepts_list_iff, ← Argument.numbers_isOk_iff (inMath f.name), StandardFunction.apply,
      ListMath.apply]
    cases Argument.numbers (inMath f.name) vs 0 <;> simp [bind, Except.bind]
  | regex | toText | toNumber => simp [mathFunctions] at hf

theorem acceptsAt_regex_iff {i : Nat} {v : Value} :
    (signature record .regex).acceptsAt i (.value v) .text = true ↔
      ∃ s, v = .text s ∨ v = .undefined ∧ s = "" ∧ 1 ≤ i := by
  have hreq : (signature record .regex).requiredCount = 1 := rfl
  cases v <;> simp [Signature.acceptsAt, hreq, ArgType.accepts, ArgType.hasType, Value.typeName]

/-- The function for patterns takes a text, and a text for flags that may be missing. -/
theorem accepts_regex_iff : (signature record .regex).accepts (vs.map .value) = true ↔
    ∃ source flags, get vs 0 = .text source ∧
      (get vs 1 = .text flags ∨ get vs 1 = .undefined ∧ flags = "") := by
  have hreq : (signature record .regex).requiredCount = 1 := rfl
  match vs with
  | [] => simp [Signature.accepts, Signature.requiredCount, signature, argTypes, requiredOf, Argument.get]
  | [v] =>
    have h : (signature record .regex).accepts [.value v] =
      (signature record .regex).acceptsAt 0 (.value v) .text := Bool.and_true _
    rw [List.map_singleton, h, acceptsAt_regex_iff]
    simp [Argument.get]
  | v :: w :: rest =>
    have h : (signature record .regex).accepts (.value v :: .value w :: rest.map .value) =
        ((signature record .regex).acceptsAt 0 (.value v) .text &&
          (signature record .regex).acceptsAt 1 (.value w) .text) := by
      rw [Signature.accepts_pair rfl, hreq, decide_eq_true (by omega), Bool.true_and]
    rw [List.map_cons, List.map_cons, h, Bool.and_eq_true, acceptsAt_regex_iff, acceptsAt_regex_iff]
    simp [Argument.get]

/-- On a source and flags the function for patterns does what `Pattern.make` does. -/
theorem makePattern_of_texts {source flags : String} (hs : get vs 0 = .text source)
    (hf : get vs 1 = .text flags ∨ get vs 1 = .undefined ∧ flags = "") :
    StandardFunction.makePattern vs site = match Pattern.make source flags with
      | .ok p => .ok (.pattern site p)
      | .error e => .error (.failed StandardFunction.regexName (.pattern e)) := by
  have hflags : Argument.textOr StandardFunction.regexName vs 1 [] = .ok flags.toList := by
    obtain hf | ⟨hf, rfl⟩ := hf
    · simp [Argument.textOr, Argument.text, hf]
    · simp [Argument.textOr, hf]
  cases hm : Pattern.make source flags <;>
    simp [StandardFunction.makePattern, Argument.text, hs, hflags, hm, bind, Except.bind]

/-- Without them it complains about one of its first two arguments. -/
theorem makePattern_of_not_texts (h : ¬ ∃ source flags, get vs 0 = .text source ∧
      (get vs 1 = .text flags ∨ get vs 1 = .undefined ∧ flags = "")) :
    ∃ n wanted got, StandardFunction.makePattern vs site =
      .error (.failed StandardFunction.regexName (.argument n wanted got)) := by
  unfold StandardFunction.makePattern Argument.text Argument.textOr
  cases hs : get vs 0 with
  | text source =>
    cases hf : get vs 1 with
    | undefined => exact absurd ⟨source, "", hs, .inr ⟨hf, rfl⟩⟩ h
    | text flags => exact absurd ⟨source, flags, hs, .inl hf⟩ h
    | _ => exact ⟨2, .text, (get vs 1).typeName, by simp [Argument.text, hf, Argument.bad, bind, Except.bind]⟩
  | _ => exact ⟨1, .text, (get vs 0).typeName, rfl⟩

end

end Standard

open Standard
open Argument (get)

/-- **The standard signatures and the standard functions agree.** For all values, in the context of the standard
records:
- a signature of a function of numbers accepts them if and only if its function succeeds on them;
- the signature of the function for patterns accepts them if and only if that function does not complain about the
  type of an argument. Of those it accepts the first two are a source and flags, which may be missing, and the
  function then fails only where they make no pattern;
- a function that converts succeeds on them. -/
theorem signatures_agree (id : Place) (host : Host) (receiver : Option Value) (site : Place) (vs : List Value) :
    (∀ e ∈ signatures.entries, e.2.path = [.name mathName] → ∃ g, function? id e.2 = some g ∧
      (e.2.accepts (vs.map .value) = true ↔ ∃ v, host.invoke g receiver vs site = .ok v)) ∧
    (∃ sig g, signatures.get? "String.regex" = some sig ∧ function? id sig = some g ∧
      (sig.accepts (vs.map .value) = true ↔ ¬ ∃ n wanted got, host.invoke g receiver vs site =
        .error (.failed StandardFunction.regexName (.argument n wanted got))) ∧
      (sig.accepts (vs.map .value) = true → ∃ source flags, get vs 0 = .text source ∧
        (get vs 1 = .text flags ∨ get vs 1 = .undefined ∧ flags = "") ∧
        ∀ fault, host.invoke g receiver vs site = .error fault → ∃ e, Pattern.make source flags = .error e ∧
          fault = .failed StandardFunction.regexName (.pattern e))) ∧
    ∀ e ∈ signatures.entries, e.2.path = [.name "Convert"] → ∃ g, function? id e.2 = some g ∧
      ∃ v, host.invoke g receiver vs site = .ok v := by
  refine ⟨?_, ?_, ?_⟩
  · intro e he hp
    have hr : (mathName, mathFunctions) ∈ records := by simp [records]
    obtain ⟨f, hf, hsig⟩ := signature_of_path he hr hp
    obtain ⟨place, hg⟩ := function?_signature hr hf id
    rw [hsig]
    exact ⟨_, hg, succeeds_iff hf⟩
  · have hr : ("String", textFunctions) ∈ records := by simp [records]
    have hf : StandardFunction.regex ∈ textFunctions := by simp [textFunctions]
    obtain ⟨place, hg⟩ := function?_signature hr hf id
    have hget := OrderedMap.get?_of_mem signatures (mem_signatures.2 ⟨_, _, hr, _, hf, rfl⟩)
    refine ⟨_, _, hget, hg, ⟨?_, ?_⟩, ?_⟩
    · rw [accepts_regex_iff]
      rintro ⟨source, flags, hs, hfl⟩ ⟨n, wanted, got, hc⟩
      have hm : StandardFunction.makePattern vs site = _ := hc
      rw [makePattern_of_texts hs hfl] at hm
      split at hm <;> simp at hm
    · intro h
      exact Decidable.byContradiction fun hn => h (makePattern_of_not_texts (mt accepts_regex_iff.2 hn))
    · intro h
      obtain ⟨source, flags, hs, hfl⟩ := accepts_regex_iff.1 h
      refine ⟨source, flags, hs, hfl, fun fault hfault => ?_⟩
      have hm : StandardFunction.makePattern vs site = _ := hfault
      rw [makePattern_of_texts hs hfl] at hm
      split at hm
      · cases hm
      · rename_i e he
        exact ⟨e, he, (Except.error.inj hm).symm⟩
  · intro e he hp
    have hr : ("Convert", convertFunctions) ∈ records := by simp [records]
    obtain ⟨f, hf, hsig⟩ := signature_of_path he hr hp
    obtain ⟨place, hg⟩ := function?_signature hr hf id
    rw [hsig]
    refine ⟨_, hg, ?_⟩
    simp only [convertFunctions, List.mem_cons, List.not_mem_nil, or_false] at hf
    obtain rfl | rfl := hf
    · exact ⟨_, rfl⟩
    · exact ⟨_, rfl⟩

/-- A text and nothing: no number can be had of them, but a pattern and a text. -/
theorem signatures_agree_text_and_nothing :
    let vs := [Value.text "a", .undefined]
    (∃ g, function? (.root 0) (signature mathName (.unary .abs)) = some g ∧
      ¬ ∃ v, (default : Host).invoke g none vs (.root 1) = .ok v) ∧
    (∃ g, function? (.root 0) (signature "String" .regex) = some g ∧
      ∀ fault, (default : Host).invoke g none vs (.root 1) = .error fault →
        ∃ e, Pattern.make "a" "" = .error e ∧ fault = .failed StandardFunction.regexName (.pattern e)) ∧
    ∃ g, function? (.root 0) (signature "Convert" .toText) = some g ∧
      ∃ v, (default : Host).invoke g none vs (.root 1) = .ok v := by
  obtain ⟨hmath, ⟨sig, g, hget, hg, -, hmake⟩, hconvert⟩ :=
    signatures_agree (.root 0) default none (.root 1) [Value.text "a", .undefined]
  refine ⟨?_, ?_, ?_⟩
  · obtain ⟨g, hg, hiff⟩ := hmath ("Math.abs", signature mathName (.unary .abs))
      (mem_signatures.2 ⟨mathName, mathFunctions, by simp [records], .unary .abs, by decide, rfl⟩) rfl
    exact ⟨g, hg, mt hiff.2 (by rw [accepts_unary_iff]; simp [Argument.get, Value.typeName])⟩
  · have hsig : sig = signature "String" .regex :=
      Option.some.inj (hget.symm.trans (OrderedMap.get?_of_mem signatures
        (mem_signatures.2 ⟨"String", textFunctions, by simp [records], .regex, by decide, rfl⟩)))
    rw [← hsig]
    obtain ⟨source, flags, hs, hf, hfault⟩ := hmake (by
      rw [hsig, accepts_regex_iff]
      exact ⟨"a", "", rfl, .inr ⟨rfl, rfl⟩⟩)
    obtain rfl : "a" = source := Value.text.inj hs
    obtain rfl : flags = "" := by simpa [Argument.get] using hf
    exact ⟨g, hg, hfault⟩
  · exact hconvert ("Convert.toString", signature "Convert" .toText)
      (mem_signatures.2 ⟨"Convert", convertFunctions, by simp [records], .toText, by decide, rfl⟩) rfl

end GatedFormula
