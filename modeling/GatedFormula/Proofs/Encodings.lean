/-
  The JSON values that write a formula, and what reading makes of them.
  - `Formula.contents` lists what the fields of a node hold.
  - `Formula.Encodes` says which JSON values write a formula: every node of it is an object or an array, whatever
    the nodes around it are; an object may have members of its own besides, and fields may be left out that
    hold what is usual.
  - Reading gives back the formula from whatever writes it (`formula?_of_encodes`).
  - A formula is written as one of these values if all its numbers are finite (`encodes_toJson`); with any other
    number it is not read back, and blame falls on its own kind (`formula?_toJson_of_number`, `blamedKind_toJson`).
-/
import GatedFormula.Formula.Encoding
import GatedFormula.Proofs.Node
import Mathlib

namespace GatedFormula

/-- What a field of a node holds. -/
inductive Content where
  | text (s : String)
  | formula (f : Formula)
  | formulas (fs : List Formula)
  | literal (v : Literal)
  /-- A text that there may be. -/
  | note (s : Option String)
  /-- A truth value, beside the usual one. -/
  | flag (b usual : Bool)

/-- May the field be left out? -/
def Content.Omissible : Content → Prop
  | .note s => s = none
  | .flag b usual => b = usual
  | _ => False

/-- A JSON value writes the value of a literal. -/
inductive Literal.Writes : Literal → Json → Prop
  | boolean (b : Bool) : Writes (.boolean b) (.boolean b)
  | whole (n : Int) : Writes (.number (Number.ofWhole n)) (.whole n)
  | real {x : Float} (h : x.isFinite = true) : Writes (.number x) (.real x)
  | text (s : String) : Writes (.text s) (.text s)

namespace Formula

/-- What the fields of a node hold, in the order of `NodeKind.fields`. -/
def contents : Formula → List Content
  | .array parts | .sequence parts => [.formulas parts]
  | .binary op l r | .logical op l r => [.text op, .formula l, .formula r]
  | .call callee arguments => [.formula callee, .formulas arguments]
  | .conditional t c a => [.formula t, .formula c, .formula a]
  | .name n => [.text n]
  | .literal v raw => [.literal v, .note raw]
  | .member object property computed => [.formula object, .formula property, .flag computed false]
  | .self => []
  | .unary op a isPrefix => [.text op, .formula a, .flag isPrefix true]

/-- The numbers in a formula are finite. -/
def Finite (f : Formula) : Prop :=
  ∀ path x raw, f.at? path = some (.literal (.number x) raw) → x.isFinite = true

mutual
/-- A JSON value writes a formula: an object that has the tag under `type` and the fields under their names, or
an array of the tag and the fields in order. -/
inductive Encodes : Formula → Json → Prop
  | object {f : Formula} {members : List (String × Json)}
      (htag : members.lookup "type" = some (.text f.kind.tag))
      (hthere : ∀ (i : Nat) (name : String) (c : Content) (j : Json), f.kind.fields[i]? = some name →
        f.contents[i]? = some c → members.lookup name = some j → Holds c j)
      (hmissing : ∀ (i : Nat) (name : String) (c : Content), f.kind.fields[i]? = some name →
        f.contents[i]? = some c → members.lookup name = none → c.Omissible) :
      Encodes f (.object members)
  | array {f : Formula} {items : List Json} (h : HoldsEach f.contents items) :
      Encodes f (.array (.text f.kind.tag :: items))

/-- JSON values write formulas, one each. -/
inductive EncodesEach : List Formula → List Json → Prop
  | nil : EncodesEach [] []
  | cons {f : Formula} {fs : List Formula} {j : Json} {js : List Json} (h : Encodes f j)
      (hr : EncodesEach fs js) : EncodesEach (f :: fs) (j :: js)

/-- A JSON value writes what a field holds. -/
inductive Holds : Content → Json → Prop
  | text (s : String) : Holds (.text s) (.text s)
  | formula {f : Formula} {j : Json} (h : Encodes f j) : Holds (.formula f) j
  | formulas {fs : List Formula} {js : List Json} (h : EncodesEach fs js) : Holds (.formulas fs) (.array js)
  | literal {v : Literal} {j : Json} (h : v.Writes j) : Holds (.literal v) j
  | note (s : String) : Holds (.note (some s)) (.text s)
  | noNote : Holds (.note none) .null
  | flag (b usual : Bool) : Holds (.flag b usual) (.boolean b)

/-- JSON values write what fields hold, in order; fields at the end may be left out. -/
inductive HoldsEach : List Content → List Json → Prop
  | done {cs : List Content} (h : ∀ c ∈ cs, c.Omissible) : HoldsEach cs []
  | cons {c : Content} {cs : List Content} {j : Json} {js : List Json} (h : Holds c j)
      (hr : HoldsEach cs js) : HoldsEach (c :: cs) (j :: js)
end

/-! ## Fields -/

/-- A part shows what a field holds. -/
def Part.Shows (p : Part) : Content → Prop
  | .text s => p.text? = some s
  | .formula f => p.formula? = some f
  | .formulas fs => p.formulas? = some fs
  | .literal v => Literal.ofJson? p.json = some v
  | .note s => p.optionalText? = some s
  | .flag b _ => p.boolean? = some b

/-- A part shows what a field holds, or there is no part and the field may be left out. -/
def Shown (p? : Option Part) (c : Content) : Prop := (∃ p, p? = some p ∧ p.Shows c) ∨ p? = none ∧ c.Omissible

/-- All fields of a node are shown under their names. -/
def Carries (fields : List (String × Part)) (f : Formula) : Prop :=
  ∀ (i : Nat) (name : String) (c : Content), f.kind.fields[i]? = some name → f.contents[i]? = some c →
    Shown (fields.lookup name) c

section
variable {α : Type} {fields : List (String × Part)} {name : String} {read : Part → Option α} {a d : α}

theorem field?_of_required (h : (∃ p, fields.lookup name = some p ∧ read p = some a) ∨
    fields.lookup name = none ∧ False) : field? fields name none read = some a := by
  rcases h with ⟨p, hp, hr⟩ | ⟨-, hf⟩
  · simp only [field?, hp, hr]
  · exact hf.elim

theorem field?_of_optional (h : (∃ p, fields.lookup name = some p ∧ read p = some a) ∨
    fields.lookup name = none ∧ a = d) : field? fields name (some d) read = some a := by
  rcases h with ⟨p, hp, hr⟩ | ⟨hn, rfl⟩
  · simp only [field?, hp, hr]
  · simp only [field?, hn]

end

/-- **A node is read from fields that show what it holds.** -/
theorem ofFields?_of_carries {fields : List (String × Part)} {f : Formula} (h : Carries fields f) :
    ofFields? f.kind fields = some f := by
  cases f with
  | array parts =>
    have hp := field?_of_required (h 0 "elements" (.formulas parts) rfl rfl)
    simp only [kind, ofFields?, hp, Option.map_some]
  | binary op l r =>
    have ho := field?_of_required (h 0 "operator" (.text op) rfl rfl)
    have hl := field?_of_required (h 1 "left" (.formula l) rfl rfl)
    have hr := field?_of_required (h 2 "right" (.formula r) rfl rfl)
    simp [kind, ofFields?, ho, hl, hr]
  | call callee arguments =>
    have hc := field?_of_required (h 0 "callee" (.formula callee) rfl rfl)
    have ha := field?_of_required (h 1 "arguments" (.formulas arguments) rfl rfl)
    simp [kind, ofFields?, hc, ha]
  | sequence parts =>
    have hp := field?_of_required (h 0 "body" (.formulas parts) rfl rfl)
    simp only [kind, ofFields?, hp, Option.map_some]
  | conditional t c a =>
    have ht := field?_of_required (h 0 "test" (.formula t) rfl rfl)
    have hc := field?_of_required (h 1 "consequent" (.formula c) rfl rfl)
    have ha := field?_of_required (h 2 "alternate" (.formula a) rfl rfl)
    simp [kind, ofFields?, ht, hc, ha]
  | name n =>
    have hn := field?_of_required (h 0 "name" (.text n) rfl rfl)
    simp only [kind, ofFields?, hn, Option.map_some]
  | literal v raw =>
    have hv := field?_of_required (h 0 "value" (.literal v) rfl rfl)
    have hr := field?_of_optional (h 1 "raw" (.note raw) rfl rfl)
    simp [kind, ofFields?, hv, hr]
  | logical op l r =>
    have ho := field?_of_required (h 0 "operator" (.text op) rfl rfl)
    have hl := field?_of_required (h 1 "left" (.formula l) rfl rfl)
    have hr := field?_of_required (h 2 "right" (.formula r) rfl rfl)
    simp [kind, ofFields?, ho, hl, hr]
  | member object property computed =>
    have ho := field?_of_required (h 0 "object" (.formula object) rfl rfl)
    have hp := field?_of_required (h 1 "property" (.formula property) rfl rfl)
    have hc := field?_of_optional (h 2 "computed" (.flag computed false) rfl rfl)
    simp [kind, ofFields?, ho, hp, hc]
  | self => rfl
  | unary op a isPrefix =>
    have ho := field?_of_required (h 0 "operator" (.text op) rfl rfl)
    have ha := field?_of_required (h 1 "argument" (.formula a) rfl rfl)
    have hp := field?_of_optional (h 2 "prefix" (.flag isPrefix true) rfl rfl)
    simp [kind, ofFields?, ho, ha, hp]

/-! ## Reading -/

theorem ofTag?_tag (k : NodeKind) : NodeKind.ofTag? k.tag = some k := by
  cases k <;> rfl

theorem kind?_tag (k : NodeKind) : (part (.text k.tag)).kind? = some k := ofTag?_tag k

theorem nodup_fields (k : NodeKind) : k.fields.Nodup := by
  cases k <;> decide

theorem lookup_memberParts (members : List (String × Json)) (name : String) :
    (memberParts members).lookup name = (members.lookup name).map part := by
  induction members with
  | nil => rfl
  | cons m rest ih =>
    obtain ⟨k, j⟩ := m
    rw [memberParts, List.lookup_cons, List.lookup_cons, ih]
    cases name == k <;> rfl

theorem lookup_zip {α : Type} {names : List String} (hn : names.Nodup) {i : Nat} {name : String}
    (h : names[i]? = some name) (parts : List α) : (names.zip parts).lookup name = parts[i]? := by
  induction names generalizing i parts with
  | nil => cases h
  | cons k rest ih =>
    obtain ⟨hk, hrest⟩ := List.nodup_cons.1 hn
    cases parts with
    | nil => rfl
    | cons p parts =>
      rw [List.zip_cons_cons, List.lookup_cons]
      cases i with
      | zero =>
        obtain rfl := Option.some.inj h
        simp
      | succ i =>
        have hne : name ≠ k := by
          rintro rfl
          exact hk (List.mem_of_getElem? h)
        rw [beq_false_of_ne hne]
        exact ih hrest h parts

theorem length_contents (f : Formula) : f.contents.length = f.kind.fields.length := by
  cases f <;> rfl

theorem ofJson?_of_writes {v : Literal} {j : Json} (h : v.Writes j) : Literal.ofJson? (part j).json = some v := by
  cases h <;> rfl

theorem length_itemParts (items : List Json) : (itemParts items).length = items.length := by
  induction items with
  | nil => rfl
  | cons j rest ih => rw [itemParts, List.length_cons, List.length_cons, ih]

theorem length_le_of_holdsEach {cs : List Content} {js : List Json} (h : HoldsEach cs js) :
    (itemParts js).length ≤ cs.length := by
  rw [length_itemParts]
  induction js generalizing cs with
  | nil => exact Nat.zero_le _
  | cons j rest ih =>
    obtain _ | ⟨_, hr⟩ := h
    exact Nat.succ_le_succ (ih hr)

mutual
/-- **What writes a formula is read as the formula.** -/
theorem formula?_of_encodes : {f : Formula} → {j : Json} → f.Encodes j → (part j).formula? = some f
  | f, .object members, .object htag hthere hmissing => by
    have hc : Carries (memberParts members) f := by
      intro i name c hname hcontent
      rw [lookup_memberParts]
      cases hm : members.lookup name with
      | none => exact .inr ⟨rfl, hmissing i name c hname hcontent hm⟩
      | some j => exact .inl ⟨part j, rfl, shows_of_holds (hthere i name c j hname hcontent hm)⟩
    change ofMembers? (memberParts members) = some f
    simp only [ofMembers?, lookup_memberParts, htag, Option.map_some, Option.bind_eq_bind, Option.bind_some,
      kind?_tag]
    exact ofFields?_of_carries hc
  | f, .array (_ :: items), .array h => by
    have hs := shown_of_holdsEach h
    have hlen := length_le_of_holdsEach h
    have hc : Carries (f.kind.fields.zip (itemParts items)) f := by
      intro i name c hname hcontent
      rw [lookup_zip (nodup_fields f.kind) hname]
      exact hs i c hcontent
    rw [length_contents] at hlen
    change ofItems? (part (.text f.kind.tag) :: itemParts items) = some f
    simp only [ofItems?, kind?_tag, Option.bind_eq_bind, Option.bind_some, if_pos hlen]
    exact ofFields?_of_carries hc

theorem formulas_of_encodesEach : {fs : List Formula} → {js : List Json} → EncodesEach fs js →
    (itemParts js).mapM Part.formula? = some fs
  | _, _, .nil => rfl
  | f :: fs, j :: js, .cons h hr => by
    simp [itemParts, formula?_of_encodes h, formulas_of_encodesEach hr]

theorem shows_of_holds : {c : Content} → {j : Json} → Holds c j → (part j).Shows c
  | _, _, .text s => rfl
  | _, _, .formula h => formula?_of_encodes h
  | _, _, .formulas h => formulas_of_encodesEach h
  | _, _, .literal h => ofJson?_of_writes h
  | _, _, .note s => rfl
  | _, _, .noNote => rfl
  | _, _, .flag b usual => rfl

theorem shown_of_holdsEach : {cs : List Content} → {js : List Json} → HoldsEach cs js →
    ∀ (i : Nat) (c : Content), cs[i]? = some c → Shown (itemParts js)[i]? c
  | cs, _, .done h, i, c, hc => .inr ⟨rfl, h c (List.mem_of_getElem? hc)⟩
  | _ :: _, _ :: _, .cons h _, 0, c, hc => by
    obtain rfl := Option.some.inj hc
    exact .inl ⟨_, rfl, shows_of_holds h⟩
  | _ :: _, _ :: _, .cons _ hr, i + 1, c, hc => shown_of_holdsEach hr i c hc
end

theorem hasNamedTag_of_encodes {f : Formula} {j : Json} (h : f.Encodes j) : hasNamedTag j = true := by
  obtain ⟨htag, -, -⟩ | h := h
  · rename_i members
    obtain ⟨before, after, hm, -⟩ := List.lookup_eq_some_iff.1 htag
    subst hm
    simp [hasNamedTag]
  · rfl

theorem ofJson_of_encodes {f : Formula} {j : Json} (h : f.Encodes j) : ofJson j = .ok f := by
  have hj : ofJson? j = some f := by
    rw [ofJson?, if_pos (hasNamedTag_of_encodes h)]
    exact formula?_of_encodes h
  rw [ofJson, hj]

/-! ## Writing -/

theorem finite_iff {f : Formula} : f.Finite ↔
    (∀ x raw, f = .literal (.number x) raw → x.isFinite = true) ∧ ∀ g ∈ f.children, g.Finite := by
  constructor
  · intro h
    refine ⟨fun x raw hf => h [] x raw (congrArg some hf), fun g hg path x raw hx => ?_⟩
    obtain ⟨i, hi⟩ := List.mem_iff_getElem?.1 hg
    refine h (path ++ [i]) x raw ?_
    rw [at?_concat, hi]
    exact hx
  · rintro ⟨hl, hc⟩ path x raw hx
    rcases List.eq_nil_or_concat path with rfl | ⟨path, i, rfl⟩
    · exact hl x raw (Option.some.inj hx)
    · rw [List.concat_eq_append, at?_concat, Option.bind_eq_some_iff] at hx
      obtain ⟨g, hg, hx⟩ := hx
      exact hc g (List.mem_of_getElem? hg) path x raw hx

theorem Finite.child {f g : Formula} (h : f.Finite) (hg : g ∈ f.children) : g.Finite := (finite_iff.1 h).2 g hg

theorem type_notMem_fields (k : NodeKind) : "type" ∉ k.fields := by
  cases k <;> decide

theorem HoldsEach.holds_or_missing {cs : List Content} {js : List Json} (h : HoldsEach cs js) {i : Nat}
    {c : Content} (hc : cs[i]? = some c) :
    (∃ j, js[i]? = some j ∧ Holds c j) ∨ js[i]? = none ∧ c.Omissible := by
  induction js generalizing cs i with
  | nil =>
    obtain ⟨hd⟩ := h
    exact .inr ⟨rfl, hd c (List.mem_of_getElem? hc)⟩
  | cons j rest ih =>
    obtain _ | ⟨hj, hr⟩ := h
    cases i with
    | zero =>
      obtain rfl := Option.some.inj hc
      exact .inl ⟨j, rfl, hj⟩
    | succ i => exact ih hr hc

/-- The object of a tag and named fields writes what the array of both writes. -/
theorem encodes_node (f : Formula) {items : List Json} (h : HoldsEach f.contents items) :
    f.Encodes (node f.kind (f.kind.fields.zip items)) := by
  have hlookup : ∀ (i : Nat) (name : String), f.kind.fields[i]? = some name →
      List.lookup name (("type", .text f.kind.tag) :: f.kind.fields.zip items) = items[i]? := by
    intro i name hname
    have hne : name ≠ "type" := by
      rintro rfl
      exact type_notMem_fields f.kind (List.mem_of_getElem? hname)
    rw [List.lookup_cons, beq_false_of_ne hne]
    exact lookup_zip (nodup_fields f.kind) hname items
  refine .object rfl (fun i name c j hname hc hj => ?_) fun i name c hname hc hj => ?_
  · rw [hlookup i name hname] at hj
    rcases h.holds_or_missing hc with ⟨j', hj', hh⟩ | ⟨hn, -⟩
    · obtain rfl := Option.some.inj (hj'.symm.trans hj)
      exact hh
    · cases hn.symm.trans hj
  · rw [hlookup i name hname] at hj
    rcases h.holds_or_missing hc with ⟨j', hj', -⟩ | ⟨-, ho⟩
    · cases hj'.symm.trans hj
    · exact ho

theorem HoldsEach.nil : HoldsEach [] [] := .done nofun

mutual
/-- **A formula with finite numbers only is written as a value that encodes it.** -/
theorem encodes_toJson : (f : Formula) → f.Finite → f.Encodes f.toJson
  | .array parts, h => by
    have hp := encodesEach_toJsons parts fun g hg => h.child hg
    exact encodes_node (.array parts) (.cons (.formulas hp) .nil)
  | .binary op l r, h => by
    have hl := encodes_toJson l (h.child (by simp [children]))
    have hr := encodes_toJson r (h.child (by simp [children]))
    exact encodes_node (.binary op l r) (.cons (.text op) (.cons (.formula hl) (.cons (.formula hr) .nil)))
  | .call callee arguments, h => by
    have hc := encodes_toJson callee (h.child (by simp [children]))
    have ha := encodesEach_toJsons arguments fun g hg => h.child (List.mem_cons_of_mem _ hg)
    exact encodes_node (.call callee arguments) (.cons (.formula hc) (.cons (.formulas ha) .nil))
  | .sequence parts, h => by
    have hp := encodesEach_toJsons parts fun g hg => h.child hg
    exact encodes_node (.sequence parts) (.cons (.formulas hp) .nil)
  | .conditional t c a, h => by
    have ht := encodes_toJson t (h.child (by simp [children]))
    have hc := encodes_toJson c (h.child (by simp [children]))
    have ha := encodes_toJson a (h.child (by simp [children]))
    exact encodes_node (.conditional t c a) (.cons (.formula ht) (.cons (.formula hc) (.cons (.formula ha) .nil)))
  | .name n, _ => encodes_node (.name n) (.cons (.text n) .nil)
  | .literal v raw, h => by
    have hv : v.Writes v.toJson := by
      cases v with
      | boolean b => exact .boolean b
      | number x =>
        have hx := (finite_iff.1 h).1 x raw rfl
        rw [Literal.toJson, if_pos hx]
        exact .real hx
      | text s => exact .text s
    cases raw with
    | none => exact encodes_node (.literal v none) (.cons (.literal hv) (.done (by simp [Content.Omissible])))
    | some s => exact encodes_node (.literal v (some s)) (.cons (.literal hv) (.cons (.note s) .nil))
  | .logical op l r, h => by
    have hl := encodes_toJson l (h.child (by simp [children]))
    have hr := encodes_toJson r (h.child (by simp [children]))
    exact encodes_node (.logical op l r) (.cons (.text op) (.cons (.formula hl) (.cons (.formula hr) .nil)))
  | .member object property computed, h => by
    have ho := encodes_toJson object (h.child (by simp [children]))
    have hp := encodes_toJson property (h.child (by simp [children]))
    exact encodes_node (.member object property computed)
      (.cons (.formula ho) (.cons (.formula hp) (.cons (.flag computed false) .nil)))
  | .self, _ => encodes_node .self .nil
  | .unary op a isPrefix, h => by
    have ha := encodes_toJson a (h.child (by simp [children]))
    exact encodes_node (.unary op a isPrefix)
      (.cons (.text op) (.cons (.formula ha) (.cons (.flag isPrefix true) .nil)))

theorem encodesEach_toJsons : (fs : List Formula) → (∀ g ∈ fs, g.Finite) →
    EncodesEach fs (toJsons fs)
  | [], _ => .nil
  | f :: rest, h => by
    have hf := encodes_toJson f (h f List.mem_cons_self)
    have hr := encodesEach_toJsons rest fun g hg => h g (List.mem_cons_of_mem f hg)
    exact .cons hf hr
end

/-! ## Numbers that are not finite -/

theorem formula?_node (k : NodeKind) (fields : List (String × Json)) :
    (part (node k fields)).formula? = ofFields? k (("type", part (.text k.tag)) :: memberParts fields) := by
  change ofMembers? (("type", part (.text k.tag)) :: memberParts fields) = _
  simp [ofMembers?, kind?_tag]

/-- An array with an item that is no formula lists no formulas. -/
theorem formulas?_of_unread {j : Json} {js : List Json} (hj : j ∈ js) (h : (part j).formula? = none) :
    (part (.array js)).formulas? = none := by
  change (itemParts js).mapM Part.formula? = none
  induction js with
  | nil => cases hj
  | cons j' rest ih =>
    rw [itemParts, List.mapM_cons]
    rcases List.mem_cons.1 hj with rfl | hj
    · rw [h]
      rfl
    · rw [ih hj]
      cases (part j').formula? <;> rfl

theorem mem_toJsons {fs : List Formula} {g : Formula} (hg : g ∈ fs) : g.toJson ∈ toJsons fs := by
  induction fs with
  | nil => cases hg
  | cons f rest ih =>
    rcases List.mem_cons.1 hg with rfl | hg
    · exact List.mem_cons_self
    · exact List.mem_cons_of_mem _ (ih hg)

/-- A node with a child that is not read back is not read back. -/
theorem formula?_toJson_of_child {f g : Formula} (hg : g ∈ f.children) (h : (part g.toJson).formula? = none) :
    (part f.toJson).formula? = none := by
  cases f with
  | array parts | sequence parts =>
    have hp : (part (.array (toJsons parts))).formulas? = none := formulas?_of_unread (mem_toJsons hg) h
    simp [toJson, formula?_node, ofFields?, field?, memberParts, List.lookup, hp]
  | call callee arguments =>
    rw [toJson, formula?_node]
    rcases List.mem_cons.1 hg with rfl | hg
    · simp [ofFields?, field?, memberParts, List.lookup, h]
    · have ha := formulas?_of_unread (mem_toJsons hg) h
      simp [ofFields?, field?, memberParts, List.lookup, ha]
  | name | literal | self => cases hg
  | _ =>
    rw [toJson, formula?_node]
    simp only [children, List.mem_cons, List.not_mem_nil, or_false] at hg
    rcases hg with rfl | rfl | rfl <;> simp [ofFields?, field?, memberParts, List.lookup, h]

/-- **A formula with a number that is not finite is not read back.** -/
theorem formula?_toJson_of_number {f : Formula} {path : List Nat} {x : Float} {raw : Option String}
    (hf : f.at? path = some (.literal (.number x) raw)) (hx : x.isFinite = false) :
    (part f.toJson).formula? = none := by
  have hleaf : (part (toJson (.literal (.number x) raw))).formula? = none := by
    simp [toJson, formula?_node, Literal.toJson, Literal.ofJson?, ofFields?, field?, memberParts, List.lookup, hx,
      part]
  generalize Formula.literal (.number x) raw = g at hf hleaf
  induction path generalizing g with
  | nil =>
    obtain rfl := Option.some.inj hf
    exact hleaf
  | cons i path ih =>
    obtain ⟨g', hg', hi⟩ := Option.bind_eq_some_iff.1 hf
    exact ih g' hg' (formula?_toJson_of_child (List.mem_of_getElem? hi) hleaf)

mutual
/-- What writes a formula claims no unknown kind. -/
theorem unknownKind?_toJson : (f : Formula) → unknownKind? f.toJson = none
  | .array parts | .sequence parts => by
    simp [toJson, node, unknownKind?, claimsKind, Json.get?, ofTag?_tag, unknownInMembers?,
      unknownInItems?_toJsons parts]
  | .binary op l r | .logical op l r => by
    simp [toJson, node, unknownKind?, claimsKind, Json.get?, ofTag?_tag, unknownInMembers?, unknownKind?_toJson l,
      unknownKind?_toJson r]
  | .call callee arguments => by
    simp [toJson, node, unknownKind?, claimsKind, Json.get?, ofTag?_tag, unknownInMembers?,
      unknownKind?_toJson callee, unknownInItems?_toJsons arguments]
  | .conditional t c a => by
    simp [toJson, node, unknownKind?, claimsKind, Json.get?, ofTag?_tag, unknownInMembers?, unknownKind?_toJson t,
      unknownKind?_toJson c, unknownKind?_toJson a]
  | .name n => by
    simp [toJson, node, unknownKind?, claimsKind, Json.get?, ofTag?_tag, unknownInMembers?]
  | .literal v raw => by
    cases raw <;> simp [toJson, node, unknownKind?, claimsKind, Json.get?, ofTag?_tag, unknownInMembers?]
  | .member object property computed => by
    simp [toJson, node, unknownKind?, claimsKind, Json.get?, ofTag?_tag, unknownInMembers?,
      unknownKind?_toJson object, unknownKind?_toJson property]
  | .self => by
    simp [toJson, node, unknownKind?, claimsKind, Json.get?, ofTag?_tag, unknownInMembers?]
  | .unary op a _ => by
    simp [toJson, node, unknownKind?, claimsKind, Json.get?, ofTag?_tag, unknownInMembers?, unknownKind?_toJson a]

theorem unknownInItems?_toJsons : (fs : List Formula) → unknownInItems? (toJsons fs) = none
  | [] => rfl
  | f :: rest => by
    simp [toJsons, unknownInItems?, unknownKind?_toJson f, unknownInItems?_toJsons rest]
end

/-- Blame for what writes a formula falls on the kind of the formula. -/
theorem blamedKind_toJson (f : Formula) : blamedKind f.toJson = f.kind.tag := by
  have hu := f.unknownKind?_toJson
  have hn : ∃ fields, f.toJson = node f.kind fields := by
    cases f <;> exact ⟨_, rfl⟩
  obtain ⟨fields, hn⟩ := hn
  rw [hn] at hu ⊢
  simp only [node] at hu ⊢
  simp [blamedKind, hu, claimedKind, Json.get?]

end Formula

/-- **Reading gives back a formula from every way to write it**, its own way among them. With a number that is not
finite, nothing is read from that, and the kind to blame is that of the formula. -/
theorem ofJson_encodes (f : Formula) :
    (∀ j, f.Encodes j → Formula.ofJson j = .ok f) ∧
    (f.Finite → f.Encodes f.toJson ∧ Formula.ofJson f.toJson = .ok f) ∧
    (¬ f.Finite → Formula.ofJson f.toJson = .error (.badNode f.kind.tag)) := by
  refine ⟨fun j h => Formula.ofJson_of_encodes h, fun h => ?_, fun h => ?_⟩
  · have he := f.encodes_toJson h
    exact ⟨he, Formula.ofJson_of_encodes he⟩
  · simp only [Formula.Finite, Classical.not_forall, Bool.not_eq_true] at h
    obtain ⟨path, x, raw, hf, hx⟩ := h
    have hn : Formula.ofJson? f.toJson = none := by
      rw [Formula.ofJson?, Formula.formula?_toJson_of_number hf hx]
      exact ite_self none
    rw [Formula.ofJson, hn, Formula.blamedKind_toJson]

/-- `-1.label` is read from an array that holds objects, with members that mean nothing; a number that is not
finite spoils `[self, not-a-number]`. -/
theorem ofJson_encodes_mixed :
    let f : Formula := .member (.unary "-" (.literal (.number (Number.ofWhole 1)) none) true) (.name "label") false
    let g : Formula := .array [.self, .literal (.number Number.nan) none]
    let j : Json := .array [.text "MemberExpression",
      .object [("argument", .array [.text "Literal", .whole 1]), ("label", .array [.null]), ("operator", .text "-"),
        ("type", .text "UnaryExpression")],
      .object [("name", .text "label"), ("type", .text "Identifier")]]
    (f.Encodes j ∧ Formula.ofJson j = .ok f) ∧ (f.Finite ∧ Formula.ofJson f.toJson = .ok f) ∧
      ¬ g.Finite ∧ Formula.ofJson g.toJson = .error (.badNode "ArrayExpression") := by
  intro f g j
  have hone : Formula.Encodes (.literal (.number (Number.ofWhole 1)) none) (.array [.text "Literal", .whole 1]) :=
    .array (.cons (.literal (.whole 1)) (.done (by simp [Content.Omissible])))
  have hminus : Formula.Encodes (.unary "-" (.literal (.number (Number.ofWhole 1)) none) true)
      (.object [("argument", .array [.text "Literal", .whole 1]), ("label", .array [.null]),
        ("operator", .text "-"), ("type", .text "UnaryExpression")]) := by
    refine .object rfl ?_ ?_
    · rintro (_ | _ | _ | i) name c j ⟨⟩ ⟨⟩ hj
      · obtain rfl := Option.some.inj hj
        exact .text "-"
      · obtain rfl := Option.some.inj hj
        exact .formula hone
      · cases hj
    · rintro (_ | _ | _ | i) name c ⟨⟩ ⟨⟩ hj
      · cases hj
      · cases hj
      · rfl
  have hlabel : Formula.Encodes (.name "label")
      (.object [("name", .text "label"), ("type", .text "Identifier")]) := by
    refine .object rfl ?_ ?_
    · rintro (_ | i) name c j ⟨⟩ ⟨⟩ hj
      obtain rfl := Option.some.inj hj
      exact .text "label"
    · rintro (_ | i) name c ⟨⟩ ⟨⟩ hj
      cases hj
  have hj : f.Encodes j :=
    .array (.cons (.formula hminus) (.cons (.formula hlabel) (.done (by simp [Content.Omissible]))))
  have hl : (Formula.literal (.number (Number.ofWhole 1)) none).Finite := by
    refine Formula.finite_iff.2 ⟨?_, nofun⟩
    rintro x raw ⟨⟩
    decide
  have hu : (Formula.unary "-" (.literal (.number (Number.ofWhole 1)) none) true).Finite :=
    Formula.finite_iff.2 ⟨nofun, by simpa [Formula.children] using hl⟩
  have hn : (Formula.name "label").Finite := Formula.finite_iff.2 ⟨nofun, nofun⟩
  have hf : f.Finite := Formula.finite_iff.2 ⟨nofun, by simpa [f, Formula.children] using ⟨hu, hn⟩⟩
  have hg : ¬ g.Finite := by
    intro h
    have hx := h [1] Number.nan none rfl
    revert hx
    decide
  obtain ⟨he, ht, -⟩ := ofJson_encodes f
  obtain ⟨-, -, hn⟩ := ofJson_encodes g
  exact ⟨⟨hj, he j hj⟩, ⟨hf, (ht hf).2⟩, hg, hn hg⟩

end GatedFormula
