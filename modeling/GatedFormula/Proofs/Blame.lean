/-
  Blame for what writes no formula.
  - `Json.replaceAt` puts a value in the place of another one, `Formula.NodeAt` says where the nodes of a formula
    stand in what writes it, and `Formula.OfObjects` that all of them are objects without members of their own.
  - `Spoiled`: no formula is read, and a kind is blamed. One spoiled node spoils all around it
    (`spoiled_replaceAt`), since what is left of the rest is blamed for nothing.
  - `unknownKind?_of_reaches`: no kind is found to blame if every object within reach has the tag of a kind.
  Main statement: `blamed_kind`.
-/
import GatedFormula.Proofs.Encodings

namespace GatedFormula

namespace Json

/-- A step into a value. -/
inductive Step where
  | member (name : String)
  | item (i : Nat)

/-- Changes what stands under a name. -/
def changeUnder (name : String) (change : Json → Json) (members : List (String × Json)) : List (String × Json) :=
  members.map fun m => if m.1 = name then (m.1, change m.2) else m

/-- Puts a value where some steps lead to. -/
def replaceAt : Json → List Step → Json → Json
  | _, [], new => new
  | .object members, .member name :: steps, new =>
    .object (changeUnder name (fun j => j.replaceAt steps new) members)
  | .array items, .item i :: steps, new => .array (items.modify i fun j => j.replaceAt steps new)
  | j, _ :: _, _ => j

/-- A value is within reach of itself, and so is what is within reach of an item, or of a member that is not under
`value`. -/
inductive Reaches : Json → Json → Prop
  | self (j : Json) : Reaches j j
  | member {members : List (String × Json)} {name : String} {j inner : Json} (hm : (name, j) ∈ members)
      (hname : name ≠ "value") (h : Reaches j inner) : Reaches (.object members) inner
  | item {items : List Json} {j inner : Json} (hj : j ∈ items) (h : Reaches j inner) :
      Reaches (.array items) inner

end Json

namespace Formula

/-- Steps that lead to a node in what writes a formula with objects. -/
inductive NodeAt : Formula → List Json.Step → Prop
  | root (f : Formula) : NodeAt f []
  | field {f g : Formula} {i : Nat} {name : String} {steps : List Json.Step} (hname : f.kind.fields[i]? = some name)
      (hc : f.contents[i]? = some (.formula g)) (h : NodeAt g steps) : NodeAt f (.member name :: steps)
  | item {f g : Formula} {gs : List Formula} {i n : Nat} {name : String} {steps : List Json.Step}
      (hname : f.kind.fields[i]? = some name) (hc : f.contents[i]? = some (.formulas gs)) (hg : gs[n]? = some g)
      (h : NodeAt g steps) : NodeAt f (.member name :: .item n :: steps)

/-- Every node of a formula is written as an object that has no name twice and no members but a tag and fields. -/
inductive OfObjects : Formula → Json → Prop
  | node {f : Formula} {members : List (String × Json)} (hnames : (members.map Prod.fst).Nodup)
      (hdeclared : ∀ name ∈ members.map Prod.fst, name = "type" ∨ name ∈ f.kind.fields)
      (hformula : ∀ (i : Nat) (name : String) (g : Formula) (j : Json), f.kind.fields[i]? = some name →
        f.contents[i]? = some (.formula g) → members.lookup name = some j → OfObjects g j)
      (hformulas : ∀ (i n : Nat) (name : String) (gs : List Formula) (js : List Json) (g : Formula) (j : Json),
        f.kind.fields[i]? = some name → f.contents[i]? = some (.formulas gs) →
        members.lookup name = some (.array js) → gs[n]? = some g → js[n]? = some j → OfObjects g j) :
      OfObjects f (.object members)

variable {f g : Formula} {members : List (String × Json)} {items : List Json} {j : Json} {name tag : String}

/-! ## Kinds that nobody has -/

theorem ofTag?_eq_none (h : ∀ k : NodeKind, k.tag ≠ tag) : NodeKind.ofTag? tag = none := by
  rw [NodeKind.ofTag?, List.find?_eq_none]
  exact fun k _ hk => h k (eq_of_beq hk)

theorem claimsKind_iff : claimsKind (.object members) ↔ ∃ k : NodeKind, members.lookup "type" = some (.text k.tag) := by
  rw [claimsKind, Json.get?]
  constructor
  · intro h
    split at h
    · rename_i tag ht
      obtain ⟨k, hk⟩ := Option.isSome_iff_exists.1 h
      have htag := List.find?_some hk
      exact ⟨k, by rw [ht, eq_of_beq htag]⟩
    · cases h
  · rintro ⟨k, hk⟩
    simp only [hk, ofTag?_tag, Option.isSome_some]

theorem unknownInItems?_eq_none_iff : unknownInItems? items = none ↔ ∀ j ∈ items, unknownKind? j = none := by
  induction items with
  | nil => simp [unknownInItems?]
  | cons j rest ih =>
    rw [unknownInItems?, List.forall_mem_cons, ← ih]
    cases unknownKind? j <;> simp

theorem unknownInMembers?_eq_none_iff :
    unknownInMembers? members = none ↔ ∀ m ∈ members, m.1 ≠ "value" → unknownKind? m.2 = none := by
  induction members with
  | nil => simp [unknownInMembers?]
  | cons m rest ih =>
    obtain ⟨k, j⟩ := m
    rw [unknownInMembers?, List.forall_mem_cons, ← ih]
    by_cases hk : k = "value"
    · simp [hk]
    · cases unknownKind? j <;> simp [hk]

theorem unknownKind?_object_eq_none_iff : unknownKind? (.object members) = none ↔
    claimsKind (.object members) ∧ ∀ m ∈ members, m.1 ≠ "value" → unknownKind? m.2 = none := by
  rw [unknownKind?, ← unknownInMembers?_eq_none_iff]
  split <;> simp [*]

theorem unknownKind?_array_eq_none_iff : unknownKind? (.array items) = none ↔ ∀ j ∈ items, unknownKind? j = none := by
  rw [unknownKind?, unknownInItems?_eq_none_iff]

mutual
/-- **No kind is found to blame if every object within reach has the tag of a kind.** -/
theorem unknownKind?_of_reaches : (j : Json) →
    (∀ inner, j.Reaches (.object inner) → claimsKind (.object inner)) → unknownKind? j = none
  | .object members, h => by
    have hm := unknownInMembers?_of_reaches members fun m hm hname inner hr => h inner (.member hm hname hr)
    exact unknownKind?_object_eq_none_iff.2 ⟨h members (.self _), unknownInMembers?_eq_none_iff.1 hm⟩
  | .array items, h => unknownInItems?_of_reaches items fun _ hj inner hr => h inner (.item hj hr)
  | .null, _ | .boolean _, _ | .whole _, _ | .real _, _ | .text _, _ => rfl

theorem unknownInItems?_of_reaches : (items : List Json) →
    (∀ j ∈ items, ∀ inner, j.Reaches (.object inner) → claimsKind (.object inner)) →
    unknownInItems? items = none
  | [], _ => rfl
  | j :: rest, h => by
    obtain ⟨hj, hrest⟩ := List.forall_mem_cons.1 h
    rw [unknownInItems?, unknownKind?_of_reaches j hj]
    exact unknownInItems?_of_reaches rest hrest

theorem unknownInMembers?_of_reaches : (members : List (String × Json)) →
    (∀ m ∈ members, m.1 ≠ "value" → ∀ inner, m.2.Reaches (.object inner) → claimsKind (.object inner)) →
    unknownInMembers? members = none
  | [], _ => rfl
  | (k, j) :: rest, h => by
    obtain ⟨hj, hrest⟩ := List.forall_mem_cons.1 h
    rw [unknownInMembers?, unknownInMembers?_of_reaches rest hrest]
    by_cases hk : k = "value"
    · rw [if_pos (beq_iff_eq.2 hk)]
    · rw [if_neg (mt beq_iff_eq.1 hk), unknownKind?_of_reaches j (hj hk)]
end

/-! ## Nothing to blame in what writes a formula -/

theorem OfObjects.lookup_iff (ho : f.OfObjects (.object members)) :
    members.lookup name = some j ↔ (name, j) ∈ members := by
  obtain ⟨hnames⟩ := ho
  exact OrderedMap.lookup_eq_some_iff_mem hnames

/-- A member of an object that writes a node is the tag or writes what a field holds. -/
theorem holds_of_member (he : f.Encodes (.object members)) (ho : f.OfObjects (.object members))
    (hm : (name, j) ∈ members) :
    j = .text f.kind.tag ∨
      ∃ (i : Nat) (c : Content), f.kind.fields[i]? = some name ∧ f.contents[i]? = some c ∧ Holds c j := by
  have hl := ho.lookup_iff.2 hm
  obtain ⟨htag, hthere, -⟩ := he
  obtain ⟨-, hdeclared⟩ := ho
  rcases hdeclared name (List.mem_map_of_mem hm) with rfl | hname
  · exact .inl (Option.some.inj (hl.symm.trans htag))
  · obtain ⟨i, hi⟩ := List.mem_iff_getElem?.1 hname
    have hlt : i < f.contents.length := by
      rw [length_contents]
      exact (List.getElem?_eq_some_iff.1 hi).1
    have hc := List.getElem?_eq_getElem hlt
    exact .inr ⟨i, _, hi, hc, hthere i name _ j hi hc hl⟩

theorem EncodesEach.get_cases {gs : List Formula} {js : List Json} (h : EncodesEach gs js) (n : Nat) :
    (∃ g j, gs[n]? = some g ∧ js[n]? = some j ∧ g.Encodes j) ∨ gs[n]? = none ∧ js[n]? = none := by
  induction gs generalizing js n with
  | nil =>
    cases h
    exact .inr ⟨rfl, rfl⟩
  | cons g gs ih =>
    obtain _ | ⟨hg, hr⟩ := h
    cases n with
    | zero => exact .inl ⟨g, _, rfl, rfl, hg⟩
    | succ n => exact ih hr n

/-- The value that writes a formula with objects claims no unknown kind. -/
theorem unknownKind?_of_encodes (ho : f.OfObjects j) (he : f.Encodes j) : unknownKind? j = none := by
  induction ho with
  | @node f members hnames hdeclared hformula hformulas ihf ihfs =>
    have ho : f.OfObjects (.object members) := .node hnames hdeclared hformula hformulas
    have htag : members.lookup "type" = some (.text f.kind.tag) := by
      obtain ⟨htag, -⟩ := he
      exact htag
    refine unknownKind?_object_eq_none_iff.2 ⟨claimsKind_iff.2 ⟨_, htag⟩, fun (k, j) hm _ => ?_⟩
    rcases holds_of_member he ho hm with rfl | ⟨i, c, hi, hc, hh⟩
    · rfl
    have hl := ho.lookup_iff.2 hm
    cases hh with
    | formula hg => exact ihf i k _ j hi hc hl hg
    | formulas hgs =>
      rw [unknownKind?_array_eq_none_iff]
      intro j hj
      obtain ⟨n, hn⟩ := List.mem_iff_getElem?.1 hj
      rcases hgs.get_cases n with ⟨g, j', hg, hj', hgj⟩ | ⟨-, hnone⟩
      · obtain rfl := Option.some.inj (hn.symm.trans hj')
        exact ihfs i n k _ _ g j hi hc hl hg hn hgj
      · cases hn.symm.trans hnone
    | literal hv => cases hv <;> rfl
    | _ => rfl

/-! ## One spoiled node -/

/-- No formula is read from a value, and a kind is found to blame. -/
structure Spoiled (j : Json) (tag : String) : Prop where
  unread : (part j).formula? = none
  blamed : unknownKind? j = some tag

/-- An object with a tag that no kind has is spoiled. -/
theorem spoiled_of_tag (ht : members.lookup "type" = some (.text tag)) (h : ∀ k : NodeKind, k.tag ≠ tag) :
    Spoiled (.object members) tag := by
  have hn := ofTag?_eq_none h
  have hc : claimsKind (.object members) = false := by
    simp [claimsKind, Json.get?, ht, hn]
  constructor
  · change ofMembers? (memberParts members) = none
    simp [ofMembers?, lookup_memberParts, ht, part, Part.kind?, hn]
  · simp [unknownKind?, hc, claimedKind, Json.get?, ht]

/-- An object without a tag is spoiled. -/
theorem spoiled_of_no_tag (ht : members.lookup "type" = none) : Spoiled (.object members) "undefined" := by
  have hc : claimsKind (.object members) = false := by
    simp [claimsKind, Json.get?, ht]
  constructor
  · change ofMembers? (memberParts members) = none
    simp [ofMembers?, lookup_memberParts, ht]
  · simp [unknownKind?, hc, claimedKind, Json.get?, ht]

/-- What is spoiled is blamed on the kind that is found. -/
theorem ofJson_of_spoiled (h : Spoiled (.object members) tag) : ofJson (.object members) = .error (.badNode tag) := by
  have hn : ofJson? (.object members) = none := by
    rw [ofJson?, h.unread]
    exact ite_self none
  rw [ofJson, hn]
  simp only [blamedKind, h.blamed, Option.getD_some]

/-- A part does not show a formula, or formulas, that a field holds. -/
def Part.Lacks (p : Part) (c : Content) : Prop :=
  (∃ g, c = .formula g) ∧ p.formula? = none ∨ (∃ gs, c = .formulas gs) ∧ p.formulas? = none

/-- A node is not read if formulas are missing in one of its fields. -/
theorem ofFields?_of_lacks {fields : List (String × Part)} {i : Nat} {c : Content} {p : Part}
    (hname : f.kind.fields[i]? = some name) (hc : f.contents[i]? = some c) (hp : fields.lookup name = some p)
    (h : p.Lacks c) : ofFields? f.kind fields = none := by
  rcases h with ⟨⟨g, rfl⟩, h⟩ | ⟨⟨gs, rfl⟩, h⟩
  · cases f <;> rcases i with _ | _ | _ | i <;> cases hc <;> cases hname <;> simp [kind, ofFields?, field?, hp, h]
  · cases f <;> rcases i with _ | _ | _ | i <;> cases hc <;> cases hname <;> simp [kind, ofFields?, field?, hp, h]

/-- A field of formulas is not called `value`. -/
theorem ne_value_of_lacks {i : Nat} {c : Content} {p : Part} (hname : f.kind.fields[i]? = some name)
    (hc : f.contents[i]? = some c) (h : p.Lacks c) : name ≠ "value" := by
  rcases h with ⟨⟨g, rfl⟩, -⟩ | ⟨⟨gs, rfl⟩, -⟩
  · cases f <;> rcases i with _ | _ | _ | i <;> cases hc <;> cases hname <;> decide
  · cases f <;> rcases i with _ | _ | _ | i <;> cases hc <;> cases hname <;> decide

variable {change : Json → Json}

theorem lookup_changeUnder (key : String) :
    (Json.changeUnder name change members).lookup key =
      (members.lookup key).map fun j => if key = name then change j else j := by
  induction members with
  | nil => rfl
  | cons m rest ih =>
    obtain ⟨k, j⟩ := m
    have hk : (if k = name then (k, change j) else (k, j)) = (k, if k = name then change j else j) := by
      split <;> rfl
    rw [Json.changeUnder, List.map_cons, hk, List.lookup_cons, List.lookup_cons]
    cases h : key == k with
    | true =>
      obtain rfl := eq_of_beq h
      rfl
    | false => exact ih

theorem unknownInMembers?_changeUnder (hm : ∀ m ∈ members, m.1 ≠ "value" → unknownKind? m.2 = none)
    (hl : members.lookup name = some j) (hname : name ≠ "value") (h : unknownKind? (change j) = some tag) :
    unknownInMembers? (Json.changeUnder name change members) = some tag := by
  induction members with
  | nil => cases hl
  | cons m rest ih =>
    obtain ⟨k, j'⟩ := m
    obtain ⟨hj, hrest⟩ := List.forall_mem_cons.1 hm
    rw [Json.changeUnder, List.map_cons]
    by_cases hk : k = name
    · subst hk
      rw [List.lookup_cons_self] at hl
      obtain rfl := Option.some.inj hl
      rw [if_pos rfl, unknownInMembers?, if_neg (mt beq_iff_eq.1 hname), h]
    · rw [List.lookup_cons, beq_false_of_ne (Ne.symm hk)] at hl
      rw [if_neg hk, unknownInMembers?]
      split
      · exact ih hrest hl
      · rename_i hv
        rw [hj (mt beq_iff_eq.2 hv)]
        exact ih hrest hl

theorem unknownInItems?_modify {n : Nat} (hm : ∀ j ∈ items, unknownKind? j = none) (hj : items[n]? = some j)
    (h : unknownKind? (change j) = some tag) : unknownInItems? (items.modify n change) = some tag := by
  induction items generalizing n with
  | nil => cases hj
  | cons j' rest ih =>
    obtain ⟨hj', hrest⟩ := List.forall_mem_cons.1 hm
    cases n with
    | zero =>
      obtain rfl := Option.some.inj hj
      rw [List.modify_zero_cons, unknownInItems?, h]
    | succ n =>
      rw [List.modify_succ_cons, unknownInItems?, hj']
      exact ih hrest hj

/-- **A node with a spoiled part is spoiled.** -/
theorem spoiled_changeUnder {i : Nat} {c : Content} (ho : f.OfObjects (.object members))
    (he : f.Encodes (.object members)) (hname : f.kind.fields[i]? = some name) (hc : f.contents[i]? = some c)
    (hl : members.lookup name = some j) (hlacks : (part (change j)).Lacks c)
    (h : unknownKind? (change j) = some tag) : Spoiled (.object (Json.changeUnder name change members)) tag := by
  have htype : "type" ≠ name := by
    rintro rfl
    exact type_notMem_fields f.kind (List.mem_of_getElem? hname)
  have htag : (Json.changeUnder name change members).lookup "type" = some (.text f.kind.tag) := by
    obtain ⟨htag, -⟩ := he
    rw [lookup_changeUnder, htag, Option.map_some, if_neg htype]
  constructor
  · have hp : (memberParts (Json.changeUnder name change members)).lookup name = some (part (change j)) := by
      rw [lookup_memberParts, lookup_changeUnder, hl, Option.map_some, if_pos rfl, Option.map_some]
    change ofMembers? (memberParts (Json.changeUnder name change members)) = none
    simp only [ofMembers?, lookup_memberParts, htag, Option.map_some, Option.bind_eq_bind, Option.bind_some,
      kind?_tag]
    exact ofFields?_of_lacks hname hc hp hlacks
  · rw [unknownKind?, if_pos (claimsKind_iff.2 ⟨f.kind, htag⟩)]
    have hm := (unknownKind?_object_eq_none_iff.1 (unknownKind?_of_encodes ho he)).2
    exact unknownInMembers?_changeUnder hm hl (ne_value_of_lacks hname hc hlacks) h

/-- A field that may not be left out is there, and holds what it should. -/
theorem Encodes.exists_member {i : Nat} {c : Content} (he : f.Encodes (.object members))
    (hname : f.kind.fields[i]? = some name) (hc : f.contents[i]? = some c) (ho : ¬ c.Omissible) :
    ∃ j, members.lookup name = some j ∧ Holds c j := by
  obtain ⟨-, hthere, hmissing⟩ := he
  cases hl : members.lookup name with
  | none => exact absurd (hmissing i name c hname hc hl) ho
  | some j => exact ⟨j, rfl, hthere i name c j hname hc hl⟩

/-- **One spoiled node spoils the whole.** -/
theorem spoiled_replaceAt {steps : List Json.Step} {new : Json} (hs : f.NodeAt steps) (ho : f.OfObjects j)
    (he : f.Encodes j) (h : Spoiled new tag) : Spoiled (j.replaceAt steps new) tag := by
  induction hs generalizing j with
  | root =>
    rw [Json.replaceAt]
    exact h
  | @field f g i name steps hname hc _ ih =>
    obtain ⟨hnames, hdeclared, hformula, hformulas⟩ := id ho
    obtain ⟨j', hl, hh⟩ := he.exists_member hname hc (by simp [Content.Omissible])
    cases hh with
    | formula he' =>
      have hsp := ih (hformula i name g j' hname hc hl) he'
      rw [Json.replaceAt]
      exact spoiled_changeUnder ho he hname hc hl (.inl ⟨⟨g, rfl⟩, hsp.unread⟩) hsp.blamed
  | @item f g gs i n name steps hname hc hgs _ ih =>
    obtain ⟨hnames, hdeclared, hformula, hformulas⟩ := id ho
    obtain ⟨j', hl, hh⟩ := he.exists_member hname hc (by simp [Content.Omissible])
    cases hh with
    | @formulas gs js he' =>
      rcases he'.get_cases n with ⟨g', j', hg', hj', hgj⟩ | ⟨hnone, -⟩
      · obtain rfl := Option.some.inj (hgs.symm.trans hg')
        have hsp := ih (hformulas i n name gs js g j' hname hc hl hgs hj') hgj
        have hmem : j'.replaceAt steps new ∈ js.modify n fun j => j.replaceAt steps new := by
          refine List.mem_of_getElem? (i := n) ?_
          rw [List.getElem?_modify_eq, hj', Option.map_eq_map, Option.map_some]
        have hlacks : (part (.array (js.modify n fun j => j.replaceAt steps new))).Lacks (.formulas gs) :=
          .inr ⟨⟨gs, rfl⟩, formulas?_of_unread hmem hsp.unread⟩
        have hjs : ∀ j ∈ js, unknownKind? j = none :=
          unknownKind?_array_eq_none_iff.1 ((unknownKind?_object_eq_none_iff.1 (unknownKind?_of_encodes ho he)).2
            (name, .array js) (ho.lookup_iff.1 hl) (ne_value_of_lacks hname hc hlacks))
        rw [Json.replaceAt]
        refine spoiled_changeUnder ho he hname hc hl (by rw [Json.replaceAt]; exact hlacks) ?_
        rw [Json.replaceAt, unknownKind?]
        exact unknownInItems?_modify hjs hj' hsp.blamed
      · cases hgs.symm.trans hnone

theorem ofJson_replaceAt {steps : List Json.Step} (hs : f.NodeAt steps) (ho : f.OfObjects j) (he : f.Encodes j)
    (h : Spoiled (.object members) tag) :
    ofJson (j.replaceAt steps (.object members)) = .error (.badNode tag) := by
  have hsp := spoiled_replaceAt hs ho he h
  obtain ⟨inner, hi⟩ : ∃ inner, j.replaceAt steps (.object members) = .object inner := by
    obtain ⟨⟩ := ho
    cases hs <;> exact ⟨_, rfl⟩
  rw [hi] at hsp ⊢
  exact ofJson_of_spoiled hsp

/-- Without an unknown kind within reach, an object that writes no formula is blamed on its own kind. -/
theorem ofJson_of_reaches {k : NodeKind} {fault : Fault} (hk : members.lookup "type" = some (.text k.tag))
    (hr : ∀ inner, (Json.object members).Reaches (.object inner) → claimsKind (.object inner))
    (h : ofJson (.object members) = .error fault) : fault = .badNode k.tag := by
  rw [ofJson] at h
  split at h
  · cases h
  · rw [blamedKind, unknownKind?_of_reaches _ hr, Option.getD_none, claimedKind, Json.get?, hk] at h
    exact (Except.error.inj h).symm

end Formula

/-- **Blame falls on what is wrong.** Where a formula is written with objects that have no members of their own, and an
object stands in for any one node, the kind to blame is the tag of that object, if no kind has it, and `undefined`, if
there is no tag. Where an object is no formula and all objects within reach have tags of kinds, the kind to blame is
that of the object. -/
theorem blamed_kind :
    (∀ (f : Formula) (j : Json) (steps : List Json.Step) (members : List (String × Json)),
      f.Encodes j → f.OfObjects j → f.NodeAt steps →
      (∀ tag, members.lookup "type" = some (.text tag) → (∀ k : NodeKind, k.tag ≠ tag) →
        Formula.ofJson (j.replaceAt steps (.object members)) = .error (.badNode tag)) ∧
      (members.lookup "type" = none →
        Formula.ofJson (j.replaceAt steps (.object members)) = .error (.badNode "undefined"))) ∧
    (∀ (members : List (String × Json)) (fault : Fault),
      (∀ inner, (Json.object members).Reaches (.object inner) →
        ∃ k : NodeKind, inner.lookup "type" = some (.text k.tag)) →
      Formula.ofJson (.object members) = .error fault →
      ∃ k : NodeKind, members.lookup "type" = some (.text k.tag) ∧ fault = .badNode k.tag) := by
  refine ⟨fun f j steps members he ho hs => ⟨fun tag ht hk => ?_, fun ht => ?_⟩, fun members fault hr h => ?_⟩
  · exact Formula.ofJson_replaceAt hs ho he (Formula.spoiled_of_tag ht hk)
  · exact Formula.ofJson_replaceAt hs ho he (Formula.spoiled_of_no_tag ht)
  · obtain ⟨k, hk⟩ := hr members (.self _)
    exact ⟨k, hk, Formula.ofJson_of_reaches hk (fun inner hi => Formula.claimsKind_iff.2 (hr inner hi)) h⟩

/-- In `a.b`, a function stands in for the name `b`, or an object without a tag; and a name has no text. -/
theorem blamed_kind_property :
    let f : Formula := .member (.name "a") (.name "b") false
    let arrow : List (String × Json) := [("body", .array [.object []]), ("type", .text "ArrowFunctionExpression")]
    let nameless : List (String × Json) := [("type", .text "Identifier")]
    (f.Encodes f.toJson ∧ f.OfObjects f.toJson ∧ f.NodeAt [.member "property"]) ∧
      Formula.ofJson (f.toJson.replaceAt [.member "property"] (.object arrow)) =
        .error (.badNode "ArrowFunctionExpression") ∧
      Formula.ofJson (f.toJson.replaceAt [.member "property"] (.object [])) = .error (.badNode "undefined") ∧
      ∃ fault, Formula.ofJson (.object nameless) = .error fault ∧ fault = .badNode "Identifier" := by
  intro f arrow nameless
  obtain ⟨hnode, hroot⟩ := blamed_kind
  have hname (n : String) : (Formula.name n).OfObjects (Formula.name n).toJson := by
    refine .node (by simp) (by simp [Formula.kind, NodeKind.fields]) ?_ ?_
    · rintro (_ | i) name g j ⟨⟩ ⟨⟩
    · rintro (_ | i) m name gs js g j ⟨⟩ ⟨⟩
  have ho : f.OfObjects f.toJson := by
    refine .node (by decide) (by simp [f, Formula.kind, NodeKind.fields]) ?_ ?_
    · rintro (_ | _ | _ | i) name g j ⟨⟩ ⟨⟩ hj
      · obtain rfl := Option.some.inj hj
        exact hname "a"
      · obtain rfl := Option.some.inj hj
        exact hname "b"
    · rintro (_ | _ | _ | i) m name gs js g j ⟨⟩ ⟨⟩
  have hfinite (n : String) : (Formula.name n).Finite := Formula.finite_iff.2 (by simp [Formula.children])
  have hf : f.Finite :=
    Formula.finite_iff.2 (by simpa [f, Formula.children] using ⟨hfinite "a", hfinite "b"⟩)
  have he : f.Encodes f.toJson := f.encodes_toJson hf
  have hs : f.NodeAt [.member "property"] := .field (i := 1) rfl rfl (.root (.name "b"))
  have hreach : ∀ inner, (Json.object nameless).Reaches (.object inner) →
      ∃ k : NodeKind, inner.lookup "type" = some (.text k.tag) := by
    intro inner hr
    cases hr with
    | self => exact ⟨.name, rfl⟩
    | member hm _ h =>
      obtain ⟨-, rfl⟩ := Prod.mk.inj (List.mem_singleton.1 hm)
      cases h
  refine ⟨⟨he, ho, hs⟩, ?_, ?_, ?_⟩
  · exact (hnode f _ _ arrow he ho hs).1 _ rfl (by intro k; cases k <;> decide)
  · exact (hnode f _ _ [] he ho hs).2 rfl
  · refine ⟨_, rfl, ?_⟩
    obtain ⟨k, hk, hfault⟩ := hroot nameless _ hreach rfl
    have htag : "Identifier" = k.tag := Json.text.inj (Option.some.inj hk)
    rw [hfault, htag]

end GatedFormula
