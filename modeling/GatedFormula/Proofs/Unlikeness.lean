/-
  What is unknown is like nothing, not even itself.
  - `Descriptor.parts` are the items of an array and the arguments of a call, `Descriptor.steps` the steps to a
    called function. `Descriptor.Holds` goes down through parts.
  - `Descriptor.HoldsUnknown` asks for what is unknown anywhere below, steps included, `Descriptor.HoldsNaN` for what
    is no number.
  - `Descriptor.LikeBy` says what likeness of two descriptors comes down to, `alike_iff` that it does.
  Main statement: `unknown_unlike`.
-/
import GatedFormula.Proofs.Bucketing
import GatedFormula.Proofs.Equality

namespace GatedFormula

/-! ## Steps -/

namespace Segment

variable {s t : Segment}

/-- The step is what is no number. -/
def IsNaN (s : Segment) : Prop := ∃ x, s = .number x ∧ x.isNaN = true

theorem known_of_alike (h : s.alike t) : s ≠ .unknown ∧ t ≠ .unknown := by
  constructor
  · rintro rfl
    cases h
  · rintro rfl
    cases s <;> cases h

theorem alike_self_iff : s.alike s ↔ s ≠ .unknown ∧ ¬ s.IsNaN := by
  cases s with
  | unknown => exact ⟨nofun, fun h => absurd rfl h.1⟩
  | name a => exact ⟨fun _ => ⟨nofun, nofun⟩, fun _ => beq_self_eq_true a⟩
  | boolean b => exact ⟨fun _ => ⟨nofun, nofun⟩, fun _ => beq_self_eq_true b⟩
  | number x =>
    have hx : (number x).IsNaN ↔ x.isNaN = true := by simp [IsNaN]
    rw [hx, Bool.not_eq_true]
    exact ⟨fun h => ⟨nofun, Number.beq_self_iff.1 h⟩, fun h => Number.beq_self_iff.2 h.2⟩

/-- Steps that are alike fit the same steps of signatures. -/
theorem fits_iff_of_alike {k : PathKey} (h : s.alike t) : k.Fits s ↔ k.Fits t := by
  cases s with
  | unknown => cases h
  | name a =>
    cases t with
    | name b => obtain rfl := eq_of_beq h; rfl
    | _ => cases h
  | boolean a =>
    cases t with
    | boolean b => obtain rfl := eq_of_beq h; rfl
    | _ => cases h
  | number x =>
    cases t with
    | number y =>
      constructor
      · rintro (_ | hk)
        exact .number (Number.beq_trans hk h)
      · rintro (_ | hk)
        exact .number (Number.beq_trans hk (Number.beq_comm x y ▸ h))
    | _ => cases h

end Segment

/-- Likeness of paths, step by step. -/
abbrev PathsAlike : List Segment → List Segment → Prop := List.Forall₂ fun s t => s.alike t = true

theorem pathsAlike_iff {p q : List Segment} : Descriptor.pathsAlike p q ↔ PathsAlike p q := by
  induction p generalizing q with
  | nil => cases q <;> simp [Descriptor.pathsAlike]
  | cons s p ih => cases q <;> simp [Descriptor.pathsAlike, ih]

namespace PathsAlike

variable {p q : List Segment}

theorem known (h : PathsAlike p q) : .unknown ∉ p ∧ .unknown ∉ q := by
  induction h with
  | nil => exact ⟨List.not_mem_nil, List.not_mem_nil⟩
  | cons hs _ ih =>
    obtain ⟨hs, ht⟩ := Segment.known_of_alike hs
    exact ⟨List.not_mem_cons_of_ne_of_not_mem hs.symm ih.1, List.not_mem_cons_of_ne_of_not_mem ht.symm ih.2⟩

theorem self_iff : PathsAlike p p ↔ .unknown ∉ p ∧ ¬ ∃ s ∈ p, s.IsNaN := by
  rw [PathsAlike, List.forall₂_same]
  simp only [Segment.alike_self_iff, not_exists, not_and]
  constructor
  · exact fun h => ⟨fun hu => (h _ hu).1 rfl, fun s hs => (h s hs).2⟩
  · exact fun h s hs => ⟨fun he => h.1 (he ▸ hs), h.2 s hs⟩

theorem fits_iff {keys : List PathKey} (h : PathsAlike p q) :
    List.Forall₂ PathKey.Fits keys p ↔ List.Forall₂ PathKey.Fits keys q := by
  induction h generalizing keys with
  | nil => rfl
  | cons hs _ ih =>
    cases keys with
    | nil => simp
    | cons k keys => rw [List.forall₂_cons, List.forall₂_cons, Segment.fits_iff_of_alike hs, ih]

end PathsAlike

/-! ## Parts of a descriptor -/

namespace Descriptor

variable {d e u : Descriptor} {P : Descriptor → Prop}

/-- The descriptors that a descriptor is made of. -/
def parts : Descriptor → List Descriptor
  | .array items => items
  | .call _ _ args => args
  | _ => []

/-- The steps to a called function. -/
def steps : Descriptor → List Segment
  | .call _ path _ => path
  | _ => []

theorem sizeOf_lt_of_mem (h : u ∈ d.parts) : sizeOf u < sizeOf d := by
  cases d with
  | array items =>
    have : sizeOf u < sizeOf items := List.sizeOf_lt_of_mem h
    simp only [array.sizeOf_spec]
    omega
  | call name path args =>
    have : sizeOf u < sizeOf args := List.sizeOf_lt_of_mem h
    simp only [call.sizeOf_spec]
    omega
  | _ => cases h

/-- What holds of a descriptor if it holds of its parts holds of every descriptor. -/
theorem induction_on_parts (h : ∀ d : Descriptor, (∀ u ∈ d.parts, P u) → P d) (d : Descriptor) : P d :=
  h d fun u _ => induction_on_parts h u
termination_by sizeOf d
decreasing_by exact sizeOf_lt_of_mem ‹_›

/-- A descriptor holds itself and what its parts hold. -/
inductive Holds : Descriptor → Descriptor → Prop
  | self (d : Descriptor) : Holds d d
  | part {d u e : Descriptor} (hu : u ∈ d.parts) (h : Holds u e) : Holds d e

/-- Something unknown is held: an argument, an item, or a step of a path. -/
def HoldsUnknown (d : Descriptor) : Prop := ∃ e, d.Holds e ∧ (e = .unknown ∨ .unknown ∈ e.steps)

/-- What is no number is held, as a step of a path or anywhere in a value. -/
def HoldsNaN (d : Descriptor) : Prop :=
  ∃ e, d.Holds e ∧ ((∃ s ∈ e.steps, s.IsNaN) ∨ ∃ v, e = .value v ∧ v.HoldsNaN)

/-- No record in a value has a name twice. -/
def Proper (d : Descriptor) : Prop := ∀ v, d.Holds (.value v) → v.Proper

theorem Proper.part (h : d.Proper) (hu : u ∈ d.parts) : u.Proper := fun v hv => h v (.part hu hv)

/-- Something is held if it is so of the descriptor itself or held by a part. -/
theorem exists_holds_iff : (∃ e, d.Holds e ∧ P e) ↔ P d ∨ ∃ u ∈ d.parts, ∃ e, u.Holds e ∧ P e := by
  constructor
  · rintro ⟨e, _ | ⟨hu, he⟩, hp⟩
    · exact .inl hp
    · exact .inr ⟨_, hu, e, he, hp⟩
  · rintro (hp | ⟨u, hu, e, he, hp⟩)
    · exact ⟨d, .self d, hp⟩
    · exact ⟨e, .part hu he, hp⟩

theorem holdsUnknown_iff :
    d.HoldsUnknown ↔ (d = .unknown ∨ .unknown ∈ d.steps) ∨ ∃ u ∈ d.parts, u.HoldsUnknown := exists_holds_iff

theorem holdsNaN_iff :
    d.HoldsNaN ↔ ((∃ s ∈ d.steps, s.IsNaN) ∨ ∃ v, d = .value v ∧ v.HoldsNaN) ∨ ∃ u ∈ d.parts, u.HoldsNaN :=
  exists_holds_iff

theorem proper_iff : d.Proper ↔ (∀ v, d = .value v → v.Proper) ∧ ∀ u ∈ d.parts, u.Proper := by
  constructor
  · refine fun h => ⟨?_, fun u => h.part⟩
    rintro v rfl
    exact h v (.self _)
  · rintro ⟨hv, hp⟩ v (_ | ⟨hu, h⟩)
    · exact hv v rfl
    · exact hp _ hu v h

/-! ## Likeness -/

/-- What makes two descriptors alike, where `R` does for their parts. -/
inductive LikeBy (R : Descriptor → Descriptor → Prop) : Descriptor → Descriptor → Prop
  | value {v w : Value} (h : v.alike w) : LikeBy R (.value v) (.value w)
  | array {as bs : List Descriptor} (h : List.Forall₂ R as bs) : LikeBy R (.array as) (.array bs)
  | call (name : String) {p q : List Segment} {as bs : List Descriptor} (hp : PathsAlike p q)
      (h : List.Forall₂ R as bs) : LikeBy R (.call name p as) (.call name q bs)

theorem allAlike_iff {as bs : List Descriptor} :
    allAlike as bs ↔ List.Forall₂ (fun a b => a.alike b = true) as bs := by
  induction as generalizing bs with
  | nil => cases bs <;> simp [allAlike]
  | cons a as ih => cases bs <;> simp [allAlike, ih]

/-- **Descriptors are alike if they are of one kind and what they are made of is alike.** -/
theorem alike_iff : d.alike e ↔ LikeBy (fun a b => a.alike b = true) d e := by
  constructor
  · intro h
    cases d with
    | value v =>
      cases e with
      | value w => exact .value h
      | _ => cases h
    | array as =>
      cases e with
      | array bs => exact .array (allAlike_iff.1 h)
      | _ => cases h
    | call n p as =>
      cases e with
      | call m q bs =>
        rw [alike, Bool.and_eq_true, Bool.and_eq_true] at h
        obtain ⟨⟨hn, ha⟩, hp⟩ := h
        obtain rfl := eq_of_beq hn
        exact .call n (pathsAlike_iff.1 hp) (allAlike_iff.1 ha)
      | _ => cases h
    | unknown => cases h
  · intro h
    cases h with
    | value h => exact h
    | array h => exact allAlike_iff.2 h
    | call name hp h =>
      rw [alike, Bool.and_eq_true, Bool.and_eq_true]
      exact ⟨⟨beq_self_eq_true name, allAlike_iff.2 h⟩, pathsAlike_iff.2 hp⟩

/-- What is alike holds nothing unknown. -/
theorem known_of_alike (h : d.alike e) : ¬ d.HoldsUnknown ∧ ¬ e.HoldsUnknown := by
  induction d using induction_on_parts generalizing e with
  | h d ih =>
    -- the parts go in pairs, so a part that holds what is unknown would have a partner that is like it
    have hparts {as bs : List Descriptor} (hd : d.parts = as)
        (h : List.Forall₂ (fun a b => a.alike b = true) as bs) :
        (¬ ∃ u ∈ as, u.HoldsUnknown) ∧ ¬ ∃ u ∈ bs, u.HoldsUnknown := by
      subst hd
      obtain ⟨hlen, h⟩ := List.forall₂_iff_get.1 h
      constructor
      · rintro ⟨u, hu, hk⟩
        obtain ⟨⟨i, hi⟩, rfl⟩ := List.mem_iff_get.1 hu
        exact (ih _ hu (h i hi (hlen ▸ hi))).1 hk
      · rintro ⟨u, hu, hk⟩
        obtain ⟨⟨i, hi⟩, rfl⟩ := List.mem_iff_get.1 hu
        exact (ih _ (List.get_mem _ ⟨i, hlen ▸ hi⟩) (h i (hlen ▸ hi) hi)).2 hk
    rw [holdsUnknown_iff, holdsUnknown_iff]
    cases alike_iff.1 h with
    | value => simp [steps, parts]
    | array ha => simpa [steps, parts] using hparts rfl ha
    | call name hp ha =>
      obtain ⟨hu, hu'⟩ := hp.known
      simpa [steps, parts, hu, hu'] using hparts rfl ha

/-- **A descriptor is like itself unless it holds what is unknown or what is no number.** -/
theorem alike_self_iff (hd : d.Proper) : d.alike d ↔ ¬ d.HoldsUnknown ∧ ¬ d.HoldsNaN := by
  induction d using induction_on_parts with
  | h d ih =>
    have hparts : List.Forall₂ (fun a b => a.alike b = true) d.parts d.parts ↔
        (¬ ∃ u ∈ d.parts, u.HoldsUnknown) ∧ ¬ ∃ u ∈ d.parts, u.HoldsNaN := by
      rw [List.forall₂_same]
      simp only [not_exists, not_and, ← forall_and]
      exact forall_congr' fun u => forall_congr' fun hu => ih u hu (hd.part hu)
    have hown : ¬ d.HoldsUnknown ∧ ¬ d.HoldsNaN ↔
        (¬ (d = .unknown ∨ .unknown ∈ d.steps) ∧
          ¬ ((∃ s ∈ d.steps, s.IsNaN) ∨ ∃ v, d = .value v ∧ v.HoldsNaN)) ∧
        List.Forall₂ (fun a b => a.alike b = true) d.parts d.parts := by
      rw [hparts, holdsUnknown_iff, holdsNaN_iff]
      exact (and_congr not_or not_or).trans and_and_and_comm
    rw [hown]
    cases d with
    | value v => simp [alike, steps, parts, Value.alike_self_iff (hd v (.self _))]
    | array items => simp [alike, steps, parts, allAlike_iff]
    | call name path args =>
      rw [alike, Bool.and_eq_true, Bool.and_eq_true, allAlike_iff, pathsAlike_iff, PathsAlike.self_iff]
      simp [steps, parts, and_comm]
    | unknown => simp [alike]

end Descriptor

/-- Call sites that are alike are calls of the same functions. -/
theorem CallSite.describes_iff_of_alike {c d : CallSite} (h : c.alike d) (s : Signature) (key : String) :
    s.Describes key c ↔ s.Describes key d := by
  obtain ⟨n, p, as⟩ := c
  obtain ⟨m, q, bs⟩ := d
  obtain ⟨⟩ := Descriptor.alike_iff.1 h
  rename_i hp _
  exact and_congr_right fun _ => hp.fits_iff

/-- **What is unknown is like nothing.** A call site, like anything that may be known of an argument, is like itself
exactly if nothing in it is unknown and nothing in it is no number. Two call sites that are alike have nothing unknown
in them and are calls of the same functions, whatever the signature and its key. -/
theorem unknown_unlike :
    (∀ d : Descriptor, d.Proper → (d.alike d ↔ ¬ d.HoldsUnknown ∧ ¬ d.HoldsNaN)) ∧
    (∀ c : CallSite, c.toDescriptor.Proper →
      (c.alike c ↔ ¬ c.toDescriptor.HoldsUnknown ∧ ¬ c.toDescriptor.HoldsNaN)) ∧
    (∀ c d : CallSite, c.alike d →
      ¬ c.toDescriptor.HoldsUnknown ∧ ¬ d.toDescriptor.HoldsUnknown ∧
      ∀ (s : Signature) (key : String), s.matchesCall key c = s.matchesCall key d) := by
  refine ⟨fun d => Descriptor.alike_self_iff, fun c => Descriptor.alike_self_iff, fun c d h => ?_⟩
  obtain ⟨hc, hd⟩ := Descriptor.known_of_alike h
  refine ⟨hc, hd, fun s key => Bool.eq_iff_iff.2 ?_⟩
  rw [Signature.matchesCall_iff, Signature.matchesCall_iff]
  exact CallSite.describes_iff_of_alike h s key

/-- `api[0].get([1, f("x")])` is like itself, and like the same call with the other zero as a step. It is not if the
nested argument is unknown or a step is no number. -/
theorem unknown_unlike_nested :
    let site (x : Float) (d : Descriptor) : CallSite :=
      ⟨"get", [.name "api", .number x], [.array [.value (.number (Number.ofWhole 1)), .call "f" [] [d]]]⟩
    let known := site (Number.ofWhole 0) (.value (.text "x"))
    let signed := site (Exact.toFloat (.finite true 0 0)) (.value (.text "x"))
    let hidden := site (Number.ofWhole 0) .unknown
    let stray := site Number.nan (.value (.text "x"))
    (known.toDescriptor.Proper ∧ known.alike known ∧ ¬ known.toDescriptor.HoldsUnknown ∧
      ¬ known.toDescriptor.HoldsNaN) ∧
    (known.alike signed ∧ ∀ (s : Signature) (key : String), s.matchesCall key known = s.matchesCall key signed) ∧
    (hidden.toDescriptor.Proper ∧ hidden.toDescriptor.HoldsUnknown ∧ ¬ hidden.alike hidden) ∧
    (stray.toDescriptor.Proper ∧ stray.toDescriptor.HoldsNaN ∧ ¬ stray.alike stray) := by
  intro site known signed hidden stray
  obtain ⟨-, hself, hmatch⟩ := unknown_unlike
  have hproper (x : Float) {d : Descriptor} (hd : d.Proper) : (site x d).toDescriptor.Proper := by
    have hone : (Value.number (Number.ofWhole 1)).Proper := Value.proper_iff.2 ⟨nofun, nofun⟩
    refine Descriptor.proper_iff.2 ⟨nofun, fun u hu => ?_⟩
    obtain rfl := List.mem_singleton.1 hu
    refine Descriptor.proper_iff.2 ⟨nofun, fun u hu => ?_⟩
    obtain rfl | rfl : u = .value (.number (Number.ofWhole 1)) ∨ u = .call "f" [] [d] := by
      simpa [Descriptor.parts] using hu
    · exact Descriptor.proper_iff.2 ⟨fun v hv => Descriptor.value.inj hv ▸ hone, nofun⟩
    · refine Descriptor.proper_iff.2 ⟨nofun, fun u hu => ?_⟩
      obtain rfl := List.mem_singleton.1 hu
      exact hd
  have htext : (Descriptor.value (.text "x")).Proper :=
    Descriptor.proper_iff.2 ⟨fun v hv => Descriptor.value.inj hv ▸ Value.proper_iff.2 ⟨nofun, nofun⟩, nofun⟩
  have hunknown : Descriptor.unknown.Proper := Descriptor.proper_iff.2 ⟨nofun, nofun⟩
  have hk : known.alike known := by decide
  have hs : known.alike signed := by decide
  have hhidden : hidden.toDescriptor.HoldsUnknown :=
    ⟨.unknown, .part (List.mem_singleton_self _) (.part (.tail _ (.head _)) (.part (.head _) (.self _))), .inl rfl⟩
  have hstray : stray.toDescriptor.HoldsNaN :=
    ⟨_, .self _, .inl ⟨.number Number.nan, .tail _ (.head _), Number.nan, rfl, by decide⟩⟩
  refine ⟨⟨hproper _ htext, hk, (hself known (hproper _ htext)).1 hk⟩, ⟨hs, (hmatch known signed hs).2.2⟩,
    ⟨hproper _ hunknown, hhidden, fun h => ?_⟩, hproper _ htext, hstray, fun h => ?_⟩
  · exact ((hself hidden (hproper _ hunknown)).1 h).1 hhidden
  · exact ((hself stray (hproper _ htext)).1 h).2 hstray

end GatedFormula
