/-
  Sameness and likeness of values are lawful.
  - Doubles first: equal ones are both zeros, or the same and numbers at all (`Number.beq_iff`).
  - `Value.parts` are the items of an array and the members of a record. What a function is bound to is no part.
    `Value.Holds` goes down through parts, `Value.HoldsNaN` asks for what is no number anywhere below.
  - `Value.LikeBy` says what likeness of two values comes down to, `alike_iff` that it does.
  Main statement: `equality_lawful`.
-/
import GatedFormula.Number.Numeral
import GatedFormula.Value.Basic
import Mathlib

namespace GatedFormula

/-! ## Numbers -/

namespace Number

open Float.Model (UnpackedFloat)

variable {x y z : Float}

theorem compare_eq_iff {a b : UnpackedFloat} : a.compare b = some .eq ↔
    (∃ s t, a = .zero s ∧ b = .zero t) ∨ a = b ∧ a.isNaN = false := by
  cases a with
  | notANumber => cases b <;> simp [UnpackedFloat.compare, UnpackedFloat.isNaN]
  | infinity s =>
    cases b with
    | infinity t => cases s <;> cases t <;> simp [UnpackedFloat.compare, UnpackedFloat.isNaN] <;> decide
    | _ => cases s <;> simp [UnpackedFloat.compare]
  | zero s =>
    cases b with
    | infinity t | finite t => cases t <;> simp [UnpackedFloat.compare]
    | _ => simp [UnpackedFloat.compare]
  | finite s m e =>
    cases b with
    | finite t => cases s <;> cases t <;> simp [UnpackedFloat.compare, UnpackedFloat.isNaN, and_comm]
    | infinity t => cases t <;> simp [UnpackedFloat.compare]
    | _ => cases s <;> simp [UnpackedFloat.compare]

/-- Equal doubles are both zeros, or the same and numbers at all. -/
theorem beq_iff : x == y ↔
    (∃ s t, x.toModel.unpack = .zero s ∧ y.toModel.unpack = .zero t) ∨
      x.toModel.unpack = y.toModel.unpack ∧ x.isNaN = false := by
  change (x.toModel.unpack.compare y.toModel.unpack == some .eq) = true ↔ _
  rw [beq_iff_eq, compare_eq_iff]
  rfl

theorem beq_comm (x y : Float) : (x == y) = (y == x) := by
  have hsymm (x y : Float) (h : x == y) : y == x := by
    rcases beq_iff.1 h with ⟨s, t, hx, hy⟩ | ⟨hxy, hn⟩
    · exact beq_iff.2 (.inl ⟨t, s, hy, hx⟩)
    · refine beq_iff.2 (.inr ⟨hxy.symm, ?_⟩)
      change y.toModel.unpack.isNaN = false
      rw [← hxy]
      exact hn
  exact Bool.eq_iff_iff.2 ⟨hsymm x y, hsymm y x⟩

theorem beq_trans (hxy : x == y) (hyz : y == z) : x == z := by
  rcases beq_iff.1 hxy with ⟨s, t, hx, hy⟩ | ⟨hxy, hn⟩
  · rcases beq_iff.1 hyz with ⟨s', t', -, hz⟩ | ⟨hyz, -⟩
    · exact beq_iff.2 (.inl ⟨s, t', hx, hz⟩)
    · exact beq_iff.2 (.inl ⟨s, t, hx, hyz ▸ hy⟩)
  · rcases beq_iff.1 hyz with ⟨s', t', hy, hz⟩ | ⟨hyz, -⟩
    · exact beq_iff.2 (.inl ⟨s', t', hxy ▸ hy, hz⟩)
    · exact beq_iff.2 (.inr ⟨hxy.trans hyz, hn⟩)

/-- A double is equal to itself unless it is no number. -/
theorem beq_self_iff : x == x ↔ x.isNaN = false := by
  rw [beq_iff]
  constructor
  · rintro (⟨s, t, hx, -⟩ | ⟨-, hn⟩)
    · change x.toModel.unpack.isNaN = false
      rw [hx]
      rfl
    · exact hn
  · exact fun hn => .inr ⟨rfl, hn⟩

end Number

/-! ## Parts of a value -/

namespace Value

/-- The values that a value is made of. -/
def parts : Value → List Value
  | .array _ items => items
  | .record _ members => members.map Prod.snd
  | _ => []

theorem sizeOf_lt_of_mem_parts {v w : Value} (h : w ∈ v.parts) : sizeOf w < sizeOf v := by
  cases v with
  | array id items =>
    have : sizeOf w < sizeOf items := List.sizeOf_lt_of_mem h
    simp only [array.sizeOf_spec]
    omega
  | record id members =>
    obtain ⟨⟨k, u⟩, hm, rfl⟩ := List.mem_map.1 h
    have := List.sizeOf_lt_of_mem hm
    simp only [Prod.mk.sizeOf_spec, record.sizeOf_spec] at this ⊢
    omega
  | _ => cases h

/-- What holds of a value if it holds of its parts holds of every value. -/
theorem induction_parts {P : Value → Prop} (h : ∀ v : Value, (∀ w ∈ v.parts, P w) → P v) (v : Value) : P v :=
  h v fun w _ => induction_parts h w
termination_by sizeOf v
decreasing_by exact sizeOf_lt_of_mem_parts ‹_›

/-- A value holds itself and what its parts hold. -/
inductive Holds : Value → Value → Prop
  | self (v : Value) : Holds v v
  | part {v u w : Value} (hu : u ∈ v.parts) (h : Holds u w) : Holds v w

/-- The value is what is no number. -/
def IsNaN (v : Value) : Prop := ∃ x, v = .number x ∧ x.isNaN = true

/-- The value is, or holds somewhere, what is no number. -/
def HoldsNaN (v : Value) : Prop := ∃ w, v.Holds w ∧ w.IsNaN

/-- No record in the value has a name twice. -/
def Proper (v : Value) : Prop := ∀ id members, v.Holds (.record id members) → (members.map Prod.fst).Nodup

/-- Arrays, records and patterns of one identity have the same contents. -/
def Agrees : Value → Value → Prop
  | .array p items, .array q items' => p = q → items = items'
  | .record p members, .record q members' => p = q → members = members'
  | .pattern p a, .pattern q b => p = q → a = b
  | _, _ => True

section
variable {u v w : Value} {id : Place} {members : List (String × Value)}

theorem Proper.part (h : v.Proper) (hu : u ∈ v.parts) : u.Proper := fun id members hm => h id members (.part hu hm)

theorem Proper.names (h : (record id members).Proper) : (members.map Prod.fst).Nodup := h id members (.self _)

theorem proper_iff :
    v.Proper ↔ (∀ id members, v = .record id members → (members.map Prod.fst).Nodup) ∧ ∀ u ∈ v.parts, u.Proper := by
  constructor
  · refine fun h => ⟨?_, fun u => h.part⟩
    rintro id members rfl
    exact h.names
  · rintro ⟨hn, hp⟩ id members hm
    obtain _ | ⟨hu, hm⟩ := hm
    · exact hn id members rfl
    · exact hp _ hu id members hm

theorem mem_parts_of_mem {k : String} (h : (k, v) ∈ members) : v ∈ (record id members).parts :=
  List.mem_map_of_mem h

theorem holdsNaN_iff : v.HoldsNaN ↔ v.IsNaN ∨ ∃ u ∈ v.parts, u.HoldsNaN := by
  constructor
  · rintro ⟨w, hw, hn⟩
    obtain _ | ⟨hu, hw⟩ := hw
    · exact .inl hn
    · exact .inr ⟨_, hu, w, hw, hn⟩
  · rintro (hn | ⟨u, hu, w, hw, hn⟩)
    · exact ⟨v, .self v, hn⟩
    · exact ⟨w, .part hu hw, hn⟩

end

/-! ## Sameness -/

theorem beq_self_iff_number {x : Float} : x == x ↔ ¬ (number x).IsNaN := by
  rw [Number.beq_self_iff, ← Bool.not_eq_true]
  refine not_congr ⟨fun hx => ⟨x, rfl, hx⟩, ?_⟩
  rintro ⟨y, ⟨⟩, hy⟩
  exact hy

theorem same_comm (v w : Value) : v.same w = w.same v := by
  cases v <;> cases w <;> simp only [same, Number.beq_comm, Bool.beq_comm]

theorem same_trans {u v w : Value} (huv : u.same v) (hvw : v.same w) : u.same w := by
  cases u with
  | undefined => cases v <;> first | exact hvw | cases huv
  | number x =>
    cases v with
    | number y => cases w <;> first | exact Number.beq_trans huv hvw | cases hvw
    | _ => cases huv
  | text | boolean | array | record | function | pattern =>
    cases v <;> simp only [same, beq_iff_eq, Bool.false_eq_true] at huv
    subst huv
    cases w <;> exact hvw

theorem same_self_iff {v : Value} : v.same v ↔ ¬ v.IsNaN := by
  cases v with
  | number x => exact beq_self_iff_number
  | undefined => exact ⟨nofun, fun _ => rfl⟩
  | _ => exact ⟨nofun, fun _ => beq_self_eq_true _⟩

/-! ## Likeness -/

/-- What makes two values alike, where `R` does for their parts. -/
inductive LikeBy (R : Value → Value → Prop) : Value → Value → Prop
  | undefined : LikeBy R .undefined .undefined
  | number {x y : Float} (h : x == y) : LikeBy R (.number x) (.number y)
  | text (s : String) : LikeBy R (.text s) (.text s)
  | boolean (b : Bool) : LikeBy R (.boolean b) (.boolean b)
  | array {p q : Place} {as bs : List Value} (h : List.Forall₂ R as bs) : LikeBy R (.array p as) (.array q bs)
  | record {p q : Place} {as bs : List (String × Value)} (hlen : as.length = bs.length)
      (h : ∀ k a, (k, a) ∈ as → ∃ b, bs.lookup k = some b ∧ R a b) : LikeBy R (.record p as) (.record q bs)
  | function (f : Function) (r r' : Option Value) : LikeBy R (.function f r) (.function f r')
  | pattern {p q : Place} {a b : Pattern} (hs : a.source = b.source) (hf : a.flags = b.flags) :
      LikeBy R (.pattern p a) (.pattern q b)

theorem itemsAlike_iff {as bs : List Value} :
    itemsAlike as bs ↔ List.Forall₂ (fun a b => a.alike b = true) as bs := by
  induction as generalizing bs with
  | nil => cases bs <;> simp [itemsAlike]
  | cons a as ih => cases bs <;> simp [itemsAlike, ih]

theorem membersAlike_iff {as bs : List (String × Value)} :
    membersAlike as bs ↔ ∀ k a, (k, a) ∈ as → ∃ b, bs.lookup k = some b ∧ a.alike b = true := by
  induction as with
  | nil => simp [membersAlike]
  | cons m rest ih =>
    obtain ⟨k, a⟩ := m
    rw [membersAlike, Bool.and_eq_true, ih]
    cases h : bs.lookup k <;> simp [h, or_imp, forall_and]

/-- **Values are alike if they are of one kind and their parts are alike.** -/
theorem alike_iff {v w : Value} : v.alike w ↔ LikeBy (fun a b => a.alike b = true) v w := by
  constructor
  · intro h
    cases v with
    | undefined => cases w <;> first | exact .undefined | cases h
    | number x => cases w <;> first | exact .number h | cases h
    | text s =>
      cases w with
      | text t => obtain rfl := eq_of_beq h; exact .text s
      | _ => cases h
    | boolean b =>
      cases w with
      | boolean c => obtain rfl := eq_of_beq h; exact .boolean b
      | _ => cases h
    | array p as =>
      cases w with
      | array q bs => exact .array (itemsAlike_iff.1 h)
      | _ => cases h
    | record p as =>
      cases w with
      | record q bs =>
        rw [alike, Bool.and_eq_true] at h
        exact .record (eq_of_beq h.1) (membersAlike_iff.1 h.2)
      | _ => cases h
    | function f r =>
      cases w with
      | function g r' => obtain rfl := eq_of_beq h; exact .function f r r'
      | _ => cases h
    | pattern p a =>
      cases w with
      | pattern q b =>
        rw [alike, Pattern.alike, Bool.and_eq_true] at h
        exact .pattern (eq_of_beq h.1) (eq_of_beq h.2)
      | _ => cases h
  · intro h
    cases h with
    | undefined => rfl
    | number h => exact h
    | text s => exact beq_self_eq_true s
    | boolean b => exact beq_self_eq_true b
    | array h => exact itemsAlike_iff.2 h
    | record hlen h =>
      rw [alike, Bool.and_eq_true]
      exact ⟨beq_iff_eq.2 hlen, membersAlike_iff.2 h⟩
    | function f r r' => exact beq_self_eq_true f
    | pattern hs hf =>
      rw [alike, Pattern.alike, Bool.and_eq_true]
      exact ⟨beq_iff_eq.2 hs, beq_iff_eq.2 hf⟩

section
variable {u v w : Value}

theorem alike_symm (hv : v.Proper) (hw : w.Proper) (h : v.alike w) : w.alike v := by
  induction v using induction_parts generalizing w with
  | h v ih =>
    rw [alike_iff] at h ⊢
    cases h with
    | undefined => exact .undefined
    | number h => exact .number (Number.beq_comm _ _ ▸ h)
    | text s => exact .text s
    | boolean b => exact .boolean b
    | array h =>
      obtain ⟨hlen, h⟩ := List.forall₂_iff_get.1 h
      refine .array (List.forall₂_iff_get.2 ⟨hlen.symm, fun i hb ha => ?_⟩)
      have hva := List.get_mem _ ⟨i, ha⟩
      exact ih _ hva (hv.part hva) (hw.part (List.get_mem _ ⟨i, hb⟩)) (h i ha hb)
    | @record p q as bs hlen h =>
      -- as many names that all occur on the other side are the names of the other side
      have hsub : as.map Prod.fst ⊆ bs.map Prod.fst := by
        intro k hk
        obtain ⟨⟨k, a⟩, ha, rfl⟩ := List.mem_map.1 hk
        obtain ⟨b, hb, -⟩ := h k a ha
        exact List.mem_map.2 ⟨(k, b), (OrderedMap.lookup_eq_some_iff_mem hw.names).1 hb, rfl⟩
      have hperm : (as.map Prod.fst).Perm (bs.map Prod.fst) :=
        (hv.names.subperm hsub).perm_of_length_le (by simp [hlen])
      refine .record hlen.symm fun k b hb => ?_
      obtain ⟨⟨k, a⟩, ha, rfl⟩ := List.mem_map.1 (hperm.mem_iff.2 (List.mem_map_of_mem hb))
      obtain ⟨b', hb', hab⟩ := h k a ha
      obtain rfl := Option.some.inj (((OrderedMap.lookup_eq_some_iff_mem hw.names).2 hb).symm.trans hb')
      have hva : a ∈ (record p as).parts := mem_parts_of_mem ha
      exact ⟨a, (OrderedMap.lookup_eq_some_iff_mem hv.names).2 ha,
        ih a hva (hv.part hva) (hw.part (mem_parts_of_mem hb)) hab⟩
    | function f r r' => exact .function f r' r
    | pattern hs hf => exact .pattern hs.symm hf.symm

theorem alike_comm (hv : v.Proper) (hw : w.Proper) : v.alike w = w.alike v :=
  Bool.eq_iff_iff.2 ⟨alike_symm hv hw, alike_symm hw hv⟩

theorem alike_trans (huv : u.alike v) (hvw : v.alike w) : u.alike w := by
  induction u using induction_parts generalizing v w with
  | h u ih =>
    rw [alike_iff] at huv hvw ⊢
    cases huv with
    | undefined | text | boolean => exact hvw
    | number h =>
      obtain _ | h' := hvw
      exact .number (Number.beq_trans h h')
    | array h =>
      obtain ⟨hlen, h⟩ := List.forall₂_iff_get.1 h
      cases hvw with
      | array h' =>
        obtain ⟨hlen', h'⟩ := List.forall₂_iff_get.1 h'
        refine .array (List.forall₂_iff_get.2 ⟨hlen.trans hlen', fun i ha hc => ?_⟩)
        exact ih _ (List.get_mem _ ⟨i, ha⟩) (h i ha (hlen ▸ ha)) (h' i (hlen ▸ ha) hc)
    | record hlen h =>
      cases hvw with
      | record hlen' h' =>
        refine .record (hlen.trans hlen') fun k a ha => ?_
        obtain ⟨b, hb, hab⟩ := h k a ha
        obtain ⟨before, after, rfl, -⟩ := List.lookup_eq_some_iff.1 hb
        obtain ⟨c, hc, hbc⟩ := h' k b (by simp)
        exact ⟨c, hc, ih a (mem_parts_of_mem ha) hab hbc⟩
    | function f r r' =>
      obtain ⟨⟩ := hvw
      exact .function f r _
    | pattern hs hf =>
      cases hvw with
      | pattern hs' hf' => exact .pattern (hs.trans hs') (hf.trans hf')

/-- A value is like itself if it is some number or none, and all its parts are like themselves. -/
theorem alike_self_iff_parts (hv : v.Proper) : v.alike v ↔ ¬ v.IsNaN ∧ ∀ u ∈ v.parts, u.alike u := by
  rw [alike_iff]
  constructor
  · intro h
    cases h with
    | number h => exact ⟨beq_self_iff_number.1 h, nofun⟩
    | array h => exact ⟨nofun, List.forall₂_same.1 h⟩
    | record hlen h =>
      refine ⟨nofun, fun u hu => ?_⟩
      obtain ⟨⟨k, a⟩, ha, rfl⟩ := List.mem_map.1 hu
      obtain ⟨b, hb, hab⟩ := h k a ha
      obtain rfl := Option.some.inj (((OrderedMap.lookup_eq_some_iff_mem hv.names).2 ha).symm.trans hb)
      exact hab
    | _ => exact ⟨nofun, nofun⟩
  · rintro ⟨hn, h⟩
    cases v with
    | undefined => exact .undefined
    | number x => exact .number (beq_self_iff_number.2 hn)
    | text s => exact .text s
    | boolean b => exact .boolean b
    | array id items => exact .array (List.forall₂_same.2 h)
    | record id members =>
      refine .record rfl fun k a ha => ?_
      exact ⟨a, (OrderedMap.lookup_eq_some_iff_mem hv.names).2 ha, h a (mem_parts_of_mem ha)⟩
    | function f r => exact .function f r r
    | pattern id p => exact .pattern rfl rfl

/-- **A value is like itself unless it holds what is no number.** -/
theorem alike_self_iff (hv : v.Proper) : v.alike v ↔ ¬ v.HoldsNaN := by
  induction v using induction_parts with
  | h v ih =>
    rw [alike_self_iff_parts hv, holdsNaN_iff, not_or, not_exists]
    refine and_congr_right fun _ => forall_congr' fun u => ?_
    rw [not_and]
    exact forall_congr' fun hu => ih u hu (hv.part hu)

theorem alike_of_same (hv : v.Proper) (hn : ¬ v.HoldsNaN) (ha : v.Agrees w) (h : v.same w) : v.alike w := by
  have hself := (alike_self_iff hv).2 hn
  cases v with
  | undefined | number | text | boolean | function => cases w <;> exact h
  | array p items =>
    cases w with
    | array q items' =>
      obtain rfl := ha (eq_of_beq h)
      exact hself
    | _ => cases h
  | record p members =>
    cases w with
    | record q members' =>
      obtain rfl := ha (eq_of_beq h)
      exact hself
    | _ => cases h
  | pattern p a =>
    cases w with
    | pattern q b =>
      obtain rfl := ha (eq_of_beq h)
      exact hself
    | _ => cases h

/-- Neither the order of members nor the identity of a record matters. -/
theorem alike_record_perm {p p' q q' : Place} {as as' bs bs' : List (String × Value)} (ha : as.Perm as')
    (hb : bs.Perm bs') (hn : (bs.map Prod.fst).Nodup) :
    (record p as).alike (record q bs) = (record p' as').alike (record q' bs') := by
  have hn' : (bs'.map Prod.fst).Nodup := (hb.map Prod.fst).nodup_iff.1 hn
  rw [alike, alike, ha.length_eq, hb.length_eq]
  congr 1
  rw [Bool.eq_iff_iff, membersAlike_iff, membersAlike_iff]
  simp only [OrderedMap.lookup_eq_some_iff_mem hn, OrderedMap.lookup_eq_some_iff_mem hn', ha.mem_iff, hb.mem_iff]

end

end Value

/-- **Sameness and likeness are lawful.** Both are symmetric and transitive. A value is the same as itself unless
it is no number, and like itself unless it holds what is no number. If it does not, all that is the same as it is
like it, provided that things of one identity have the same contents. The order of its members does not matter
to a record. -/
theorem equality_lawful :
    (∀ v w : Value, v.same w = w.same v) ∧
    (∀ u v w : Value, u.same v → v.same w → u.same w) ∧
    (∀ v : Value, v.same v ↔ ¬ v.IsNaN) ∧
    (∀ v w : Value, v.Proper → w.Proper → v.alike w = w.alike v) ∧
    (∀ u v w : Value, u.alike v → v.alike w → u.alike w) ∧
    (∀ v : Value, v.Proper → (v.alike v ↔ ¬ v.HoldsNaN)) ∧
    (∀ v w : Value, v.Proper → v.Agrees w → ¬ v.HoldsNaN → v.same w → v.alike w) ∧
    (∀ (p p' q q' : Place) (as as' bs bs' : List (String × Value)), as.Perm as' → bs.Perm bs' →
      (bs.map Prod.fst).Nodup →
      (Value.record p as).alike (.record q bs) = (Value.record p' as').alike (.record q' bs')) := by
  refine ⟨Value.same_comm, fun u v w => Value.same_trans, fun v => Value.same_self_iff, fun v w => Value.alike_comm,
    fun u v w => Value.alike_trans, fun v => Value.alike_self_iff, ?_, ?_⟩
  · intro v w hv ha hn h
    exact Value.alike_of_same hv hn ha h
  · intro p p' q q' as as' bs bs' ha hb hn
    exact Value.alike_record_perm ha hb hn

/-- An array of what is no number is the same as itself, but not like itself. Two records with the same members in
two orders are alike. -/
theorem equality_lawful_nan :
    let v : Value := .array (.root 0) [.number Number.nan]
    let r : Value := .record (.root 1) [("a", .text "x"), ("b", .boolean true)]
    let r' : Value := .record (.root 2) [("b", .boolean true), ("a", .text "x")]
    (v.Proper ∧ v.HoldsNaN ∧ v.same v ∧ ¬ v.alike v) ∧ (r.Proper ∧ ¬ r.HoldsNaN ∧ r.alike r' ∧ r'.alike r) := by
  intro v r r'
  obtain ⟨-, -, hsame, hcomm, -, hself, hlike, hperm⟩ := equality_lawful
  have hleaf (u : Value) (hu : u.parts = []) (hr : ∀ id members, u ≠ .record id members) : u.Proper :=
    Value.proper_iff.2 ⟨fun id members he => absurd he (hr id members), by simp [hu]⟩
  have harray (p : Place) {items : List Value} (hi : ∀ u ∈ items, u.Proper) : (Value.array p items).Proper :=
    Value.proper_iff.2 ⟨nofun, hi⟩
  have hrecord (p : Place) {members : List (String × Value)} (hn : (members.map Prod.fst).Nodup)
      (hm : ∀ u ∈ members.map Prod.snd, u.Proper) : (Value.record p members).Proper :=
    Value.proper_iff.2 ⟨fun id members he => by obtain ⟨rfl, rfl⟩ := Value.record.inj he; exact hn, hm⟩
  have hv : v.Proper := harray _ (by simpa using hleaf (.number Number.nan) rfl nofun)
  have hx : (Value.text "x").Proper := hleaf _ rfl nofun
  have ht : (Value.boolean true).Proper := hleaf _ rfl nofun
  have hr : r.Proper := hrecord _ (by decide) (by simpa using ⟨hx, ht⟩)
  have hr' : r'.Proper := hrecord _ (by decide) (by simpa using ⟨ht, hx⟩)
  have hn : v.HoldsNaN := ⟨_, .part List.mem_cons_self (.self _), _, rfl, by decide⟩
  have hrn : ¬ r.HoldsNaN := (hself r hr).1 rfl
  have hlike : r.alike r := hlike r r hr (fun _ => rfl) hrn ((hsame r).2 nofun)
  have hrr' : r.alike r' = r.alike r := hperm _ _ _ _ _ _ _ _ (.refl _) (.swap _ _ _) (by decide)
  refine ⟨⟨hv, hn, (hsame v).2 nofun, fun h => (hself v hv).1 h hn⟩, hr, hrn, hrr'.trans hlike, ?_⟩
  rw [← hcomm r r' hr hr', hrr']
  exact hlike

end GatedFormula
