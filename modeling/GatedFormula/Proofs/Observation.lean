/-
  Values that cannot be told apart by what a policy lets be read.
  - `Value.SameUnder` relates two values that are the same but for members that nobody may read.
  - Their types, texts, truth and sameness agree, operators give the same for them, and reading a member gives
    values that are related again or the same fault.
-/
import GatedFormula.Evaluation.Host
import GatedFormula.Formula.Operation
import Mathlib.Data.List.Forall2

namespace GatedFormula

/-- The same fault, or results that are related. -/
inductive SameResult {α β : Type} (R : α → β → Prop) : Except Fault α → Except Fault β → Prop
  | ok {a : α} {b : β} (h : R a b) : SameResult R (.ok a) (.ok b)
  | error (f : Fault) : SameResult R (.error f) (.error f)

theorem SameResult.map {α β γ δ : Type} {R : α → β → Prop} {S : γ → δ → Prop} {g : α → γ} {h : β → δ}
    {x : Except Fault α} {y : Except Fault β} (hxy : SameResult R x y)
    (hg : ∀ a b, R a b → S (g a) (h b)) : SameResult S (x.map g) (y.map h) := by
  cases hxy with
  | ok hab => exact .ok (hg _ _ hab)
  | error f => exact .error f

/-- A member may be read of one of two containers under some key with a text. -/
def Open (policy : Option Policy) (v w : Value) (text : String) : Prop :=
  ∃ k : Key, k.text = text ∧ (isPermitted policy v k ∨ isPermitted policy w k)

/-- Two values are the same, apart from members of records that the policy keeps closed under every key. -/
inductive Value.SameUnder (policy : Option Policy) : Value → Value → Prop
  | undefined : SameUnder policy .undefined .undefined
  | number (x : Float) : SameUnder policy (.number x) (.number x)
  | text (s : String) : SameUnder policy (.text s) (.text s)
  | boolean (b : Bool) : SameUnder policy (.boolean b) (.boolean b)
  | array (id : Place) {items items' : List Value} (h : List.Forall₂ (SameUnder policy) items items') :
      SameUnder policy (.array id items) (.array id items')
  | record (id : Place) {members members' : List (String × Value)}
      (hk : members.map Prod.fst = members'.map Prod.fst)
      (h : ∀ k v w, members.lookup k = some v → members'.lookup k = some w →
        Open policy (.record id members) (.record id members') k → SameUnder policy v w) :
      SameUnder policy (.record id members) (.record id members')
  | unbound (f : Function) : SameUnder policy (.function f none) (.function f none)
  | bound (f : Function) {r r' : Value} (h : SameUnder policy r r') :
      SameUnder policy (.function f (some r)) (.function f (some r'))
  | pattern (id : Place) (p : Pattern) : SameUnder policy (.pattern id p) (.pattern id p)

namespace Value.SameUnder

variable {policy : Option Policy} {v w v' w' : Value}

mutual
/-- What is the same is the same under any policy. -/
theorem refl : (v : Value) → SameUnder policy v v
  | .undefined => .undefined
  | .number x => .number x
  | .text s => .text s
  | .boolean b => .boolean b
  | .array id items => .array id (items_refl items)
  | .record id members => .record id rfl fun k v w hv hw _ => by
    obtain rfl := Option.some.inj (hv.symm.trans hw)
    exact members_refl members k v hv
  | .function f none => .unbound f
  | .function f (some r) => .bound f (refl r)
  | .pattern id p => .pattern id p

theorem items_refl : (vs : List Value) → List.Forall₂ (SameUnder policy) vs vs
  | [] => .nil
  | v :: rest => .cons (refl v) (items_refl rest)

theorem members_refl : (members : List (String × Value)) → ∀ k v, members.lookup k = some v →
    SameUnder policy v v
  | [], _, _, h => by cases h
  | (k', v') :: rest, k, v, h => by
    rw [List.lookup_cons] at h
    cases hk : k == k' with
    | true =>
      rw [hk] at h
      obtain rfl := Option.some.inj h
      exact refl v'
    | false =>
      rw [hk] at h
      exact members_refl rest k v h
end

theorem typeName_eq (h : SameUnder policy v w) : v.typeName = w.typeName := by
  cases h <;> rfl

theorem isUndefined_eq (h : SameUnder policy v w) : v.isUndefined = w.isUndefined := by
  cases h <;> rfl

theorem isTruthy_eq (h : SameUnder policy v w) : v.isTruthy = w.isTruthy := by
  cases h <;> rfl

theorem key?_eq (h : SameUnder policy v w) : v.key? = w.key? := by
  cases h <;> rfl

mutual
theorem toText_eq : (v : Value) → {w : Value} → SameUnder policy v w → v.toText = w.toText
  | .array id items, _, .array _ h => by rw [toText, toText, itemTexts_eq items h]
  | _, _, .undefined => rfl
  | _, _, .number x => rfl
  | _, _, .text s => rfl
  | _, _, .boolean b => rfl
  | _, _, .record _ _ _ => rfl
  | _, _, .unbound _ => rfl
  | _, _, .bound _ _ => rfl
  | _, _, .pattern _ _ => rfl

theorem itemTexts_eq : (vs : List Value) → {ws : List Value} → List.Forall₂ (SameUnder policy) vs ws →
    itemTexts vs = itemTexts ws
  | [], _, .nil => rfl
  | v :: rest, _, .cons (b := w) h hr => by
    have ih := itemTexts_eq rest hr
    have hv := toText_eq v h
    cases h <;> simp only [itemTexts, ih, hv]
end

/-! ## Operators -/

theorem same_eq (h : SameUnder policy v v') (h' : SameUnder policy w w') : v.same w = v'.same w' := by
  cases h <;> cases h' <;> rfl

theorem applyBinary_eq (symbol : String) (h : SameUnder policy v v') (h' : SameUnder policy w w') :
    applyBinary symbol v w = applyBinary symbol v' w' := by
  unfold applyBinary
  cases BinaryOperator.ofSymbol? symbol with
  | none => rfl
  | some o =>
    dsimp only
    unfold BinaryOperator.apply
    rw [same_eq h h']
    cases h <;> cases h' <;> rfl

theorem applyUnary_eq (symbol : String) (h : SameUnder policy v w) :
    applyUnary symbol v = applyUnary symbol w := by
  unfold applyUnary
  cases UnaryOperator.ofSymbol? symbol with
  | none => rfl
  | some o =>
    dsimp only
    unfold UnaryOperator.apply
    rw [h.isTruthy_eq]
    cases h <;> rfl

/-! ## Members -/

theorem rel_getElem? {vs ws : List Value} (h : List.Forall₂ (SameUnder policy) vs ws) (i : Nat) :
    Option.Rel (SameUnder policy) vs[i]? ws[i]? := by
  induction h generalizing i with
  | nil => exact .none
  | cons hv _ ih =>
    cases i with
    | zero => exact .some hv
    | succ i => exact ih i

theorem lookup_isSome_eq {members members' : List (String × Value)}
    (h : members.map Prod.fst = members'.map Prod.fst) (k : String) :
    (members.lookup k).isSome = (members'.lookup k).isSome := by
  induction members generalizing members' with
  | nil =>
    cases members' with
    | nil => rfl
    | cons e rest => cases h
  | cons e rest ih =>
    cases members' with
    | nil => cases h
    | cons e' rest' =>
      obtain ⟨k₁, v₁⟩ := e
      obtain ⟨k₂, v₂⟩ := e'
      obtain ⟨hk, hr⟩ := List.cons.inj h
      obtain rfl : k₁ = k₂ := hk
      simp only [List.lookup_cons]
      cases k == k₁ with
      | true => rfl
      | false => exact ih hr

/-- Values under a key that may be read are related, or there are none. -/
theorem rel_stored? {k : Key} (h : SameUnder policy v w) (hk : isPermitted policy v k) :
    Option.Rel (SameUnder policy) (v.stored? k) (w.stored? k) := by
  cases h with
  | array id h =>
    simp only [stored?]
    cases k.index? with
    | none => exact .none
    | some i => exact rel_getElem? h i
  | @record id members members' hkeys h =>
    simp only [stored?]
    have hs := lookup_isSome_eq hkeys k.text
    cases hv : members.lookup k.text <;> cases hw : members'.lookup k.text <;> simp [hv, hw] at hs
    · exact .none
    · exact .some (h _ _ _ hv hw ⟨k, rfl, .inl hk⟩)
  | text s =>
    cases k with
    | name n =>
      simp only [stored?]
      cases TextMethod.named? n with
      | none => exact .none
      | some m => exact .some (.unbound _)
    | number x =>
      simp only [stored?]
      cases (Key.number x).index? with
      | none => exact .none
      | some i =>
        simp only [Option.bind_some]
        cases s.toList[i]? with
        | none => exact .none
        | some c => exact .some (.text _)
  | _ => exact .none

theorem rebound (h : SameUnder policy v v') (hw : SameUnder policy w w') :
    SameUnder policy (Value.bound v w) (Value.bound v' w') := by
  cases hw with
  | unbound f => exact .bound f h
  | bound f _ => exact .bound f h
  | undefined => exact .undefined
  | number x => exact .number x
  | text s => exact .text s
  | boolean b => exact .boolean b
  | array id hs => exact .array id hs
  | record id hk hs => exact .record id hk hs
  | pattern id p => exact .pattern id p

/-- Members that may be read are related. -/
theorem member {k : Key} (h : SameUnder policy v w) (hk : isPermitted policy v k) :
    SameUnder policy (v.member k) (w.member k) := by
  have hs := h.rel_stored? hk
  unfold Value.member
  cases hv : v.stored? k <;> cases hw : w.stored? k <;> rw [hv, hw] at hs <;> cases hs
  · exact .undefined
  · exact h.rebound ‹_›

/-- Reading a member of related values gives related values or the same fault, where the policy judges related
values alike. -/
theorem readMember (hP : ∀ v w, SameUnder policy v w → ∀ k, isPermitted policy v k = isPermitted policy w k)
    (h : SameUnder policy v w) (k : Key) :
    SameResult (SameUnder policy) (readMember policy v k) (readMember policy w k) := by
  unfold GatedFormula.readMember
  rw [← hP v w h k]
  by_cases hk : isPermitted policy v k
  · rw [if_pos hk, if_pos hk]
    exact .ok (h.member hk)
  · rw [if_neg hk, if_neg hk, denial, denial, h.toText_eq, h.typeName_eq]
    exact .error _

end Value.SameUnder

end GatedFormula
