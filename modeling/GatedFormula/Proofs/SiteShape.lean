/-
  How call sites look.
  - `CallSite.Shaped`: a call site has an argument for each one of its call, the steps of its callee, of which only the
    first one may be unknown, and its arrays are there because of calls in them.
  - `resolvePath_shape`: a path begins with the name at the root of the callee, or with what is unknown, and goes on
    with known steps.
  - `array_resolve`: what holds an array holds no unknown items in it, but a call.
  Main statement: `sites_shaped`.
-/
import GatedFormula.Proofs.Sites
import GatedFormula.Proofs.Unlikeness

namespace GatedFormula

/-- The name at the root of a chain of members. -/
def Formula.root? : Formula → Option String
  | .name n => some n
  | .member object _ _ => root? object
  | _ => none

/-- There is a call, or an array with a call in it. -/
inductive Descriptor.HasCall : Descriptor → Prop
  | call (name : String) (path : List Segment) (args : List Descriptor) : HasCall (.call name path args)
  | item {items : List Descriptor} {d : Descriptor} (hd : d ∈ items) (h : HasCall d) : HasCall (.array items)

/-- The shape of the call site that a callee and arguments make. -/
structure CallSite.Shaped (callee : Formula) (arguments : List Formula) (c : CallSite) : Prop where
  args : c.args.length = arguments.length
  /-- Only the first step may be unknown. -/
  unknown : ∀ i, c.path[i]? = some .unknown → i = 0
  bare : c.path = [] ↔ ∃ n, callee = .name n
  first : ∀ step, c.path.head? = some step → step = .unknown ∨ ∃ n, callee.root? = some n ∧ step = .name n
  /-- Arrays have no unknown items, but calls. -/
  arrays : ∀ items, c.toDescriptor.Holds (.array items) → .unknown ∉ items ∧ (Descriptor.array items).HasCall

variable {s : Scope}

/-! ## What a descriptor holds -/

namespace Descriptor

variable {d e : Descriptor} {c : CallSite}

/-- What is held is the descriptor itself, or is held by a part. -/
theorem holds_iff : d.Holds e ↔ d = e ∨ ∃ u ∈ d.parts, u.Holds e := by
  constructor
  · rintro (_ | ⟨hu, h⟩)
    · exact .inl rfl
    · exact .inr ⟨_, hu, h⟩
  · rintro (rfl | ⟨u, hu, h⟩)
    · exact .self d
    · exact .part hu h

theorem mem_callsEach {ds : List Descriptor} : c ∈ callsEach ds ↔ ∃ u ∈ ds, c ∈ u.calls := by
  induction ds with
  | nil => simp [callsEach]
  | cons u rest ih => simp [callsEach, ih]

/-- **The calls that stand in a descriptor are those that it holds.** -/
theorem mem_calls_iff : c ∈ d.calls ↔ d.Holds c.toDescriptor := by
  induction d using induction_on_parts with
  | h d ih =>
    have hparts : c ∈ callsEach d.parts ↔ ∃ u ∈ d.parts, u.Holds c.toDescriptor := by
      rw [mem_callsEach]
      exact exists_congr fun u => and_congr_right fun hu => ih u hu
    rw [holds_iff, ← hparts]
    cases d with
    | value v => simp [calls, callsEach, parts, CallSite.toDescriptor]
    | unknown => simp [calls, callsEach, parts, CallSite.toDescriptor]
    | array items => simp [calls, parts, CallSite.toDescriptor]
    | call name path args =>
      obtain ⟨n, p, as⟩ := c
      simp [calls, parts, CallSite.toDescriptor, eq_comm]

end Descriptor

open Static

namespace Formula

variable {f callee : Formula} {elements arguments : List Formula} {p : Place} {c : CallSite}

theorem exists_of_mem_resolveEach {fs : List Formula} {i : ℕ} {d : Descriptor}
    (h : d ∈ (resolveEach s fs p i).map Resolution.result) : ∃ g ∈ fs, ∃ q, d = (g.resolve s q).result := by
  induction fs generalizing i with
  | nil => cases h
  | cons g rest ih =>
    rw [resolveEach, List.map_cons, List.mem_cons] at h
    rcases h with rfl | h
    · exact ⟨g, List.mem_cons_self, _, rfl⟩
    · obtain ⟨g', hg', hq⟩ := ih h
      exact ⟨g', List.mem_cons_of_mem _ hg', hq⟩

theorem length_resolveEach (fs : List Formula) (p : Place) (i : ℕ) : (resolveEach s fs p i).length = fs.length := by
  induction fs generalizing i with
  | nil => rfl
  | cons g rest ih => rw [resolveEach, List.length_cons, ih, List.length_cons]

/-- The parts of what a formula resolves to are what its parts resolve to. -/
theorem mem_parts_resolve {u : Descriptor} (h : u ∈ (f.resolve s p).result.parts) :
    ∃ g ∈ f.parts, ∃ q, u = (g.resolve s q).result := by
  by_cases ha : f.kind = .array
  · cases f with
    | array elements =>
      rcases @array_cases s elements p with hu | ⟨vs, -, hv⟩ | hi
      · rw [hu] at h
        cases h
      · rw [hv] at h
        cases h
      · rw [hi] at h
        exact exists_of_mem_resolveEach h
    | _ => cases ha
  · by_cases hc : f.kind = .call
    · cases f with
      | call callee arguments =>
        rw [result_resolve_call] at h
        cases hs : (call callee arguments).site? s p with
        | none =>
          rw [hs] at h
          cases h
        | some c =>
          obtain ⟨-, hargs⟩ := resolveCall_eq_some hs
          rw [hs] at h
          change u ∈ c.args at h
          rw [hargs] at h
          obtain ⟨g, hg, hq⟩ := exists_of_mem_resolveEach h
          exact ⟨g, List.mem_cons_of_mem _ hg, hq⟩
      | _ => cases hc
    · obtain ⟨st, hfit⟩ := s.exists_fits
      rcases unknown_or_value hfit ha hc p with hu | ⟨v, hv⟩
      · rw [hu] at h
        cases h
      · rw [hv] at h
        cases h

/-! ## Arrays -/

/-- Only arrays resolve to arrays. -/
theorem kind_of_array {items : List Descriptor} (h : (f.resolve s p).result = .array items) : f.kind = .array := by
  by_contra ha
  by_cases hc : f.kind = .call
  · cases f with
    | call callee arguments =>
      rw [result_resolve_call] at h
      cases hs : (call callee arguments).site? s p <;> rw [hs] at h <;> cases h
    | _ => cases hc
  · obtain ⟨st, hfit⟩ := s.exists_fits
    rcases unknown_or_value hfit ha hc p with hu | ⟨v, hv⟩
    · cases hu.symm.trans h
    · cases hv.symm.trans h

/-- An array that is no value has only known items, and one of them is no value. -/
theorem items_of_array {items : List Descriptor} (h : (f.resolve s p).result = .array items) :
    .unknown ∉ items ∧ ∃ d ∈ items, ∀ v, d ≠ .value v := by
  have ha := kind_of_array h
  cases f with
  | array elements =>
    change (arrayOf p [] (resolveEach s elements p 0)).result = _ at h
    rw [arrayOf_result] at h
    split at h
    · cases h
    · rename_i hknown
      rw [List.reverse_nil, List.nil_append] at h
      obtain rfl : items = (resolveEach s elements p 0).map Resolution.result := by
        rcases Descriptor.ofItems_cases p ((resolveEach s elements p 0).map Resolution.result) with ⟨vs, -, hv⟩ | hi
        · cases hv.symm.trans h
        · exact Descriptor.array.inj (h.symm.trans hi)
      refine ⟨fun hu => ?_, ?_⟩
      · obtain ⟨r, hr, hru⟩ := List.mem_map.1 hu
        exact hknown (List.any_eq_true.2 ⟨r, hr, by rw [hru]; rfl⟩)
      · -- of values only, the array would be a value itself
        by_contra hall
        simp only [not_exists, not_and, not_forall, not_not] at hall
        generalize (resolveEach s elements p 0).map Resolution.result = items at h hall
        have hvalues : items = (items.filterMap Descriptor.value?).map .value := by
          rw [List.map_filterMap]
          refine ((List.filterMap_congr fun d hd => ?_).trans List.filterMap_some).symm
          obtain ⟨v, rfl⟩ := hall d hd
          rfl
        rw [hvalues, Descriptor.ofItems_map] at h
        cases h
  | _ => cases ha

/-- **Every array in what a formula resolves to has known items only, and a call among them or deeper.** -/
theorem array_resolve (f : Formula) : ∀ {p : Place} {items : List Descriptor},
    (f.resolve s p).result.Holds (.array items) → .unknown ∉ items ∧ (Descriptor.array items).HasCall := by
  induction f using induction_parts with
  | h f ih =>
    intro p items h
    rcases Descriptor.holds_iff.1 h with h | ⟨u, hu, h⟩
    · obtain ⟨hknown, d, hd, hvalue⟩ := items_of_array h
      refine ⟨hknown, .item hd ?_⟩
      obtain ⟨g, hg, q, hdg⟩ := mem_parts_resolve (f := f) (p := p) (by rw [h]; exact hd)
      cases d with
      | value v => exact absurd rfl (hvalue v)
      | unknown => exact absurd hd hknown
      | call name path args => exact .call name path args
      | array inner =>
        have hself : (g.resolve s q).result.Holds (.array inner) := hdg ▸ .self _
        exact (ih g hg hself).2
    · obtain ⟨g, hg, q, rfl⟩ := mem_parts_resolve hu
      exact ih g hg h

/-! ## Paths -/

/-- **A path begins with the name at the root of the callee, or with what is unknown**, and goes on with known steps. -/
theorem resolvePath_shape : (f : Formula) → (p : Place) → ∃ first rest,
    (resolvePath s f p).result = first :: rest ∧ .unknown ∉ rest ∧
      (first = .unknown ∨ ∃ n, f.root? = some n ∧ first = .name n)
  | .name n, _ => ⟨.name n, [], rfl, List.not_mem_nil, .inr ⟨n, rfl, rfl⟩⟩
  | .member object property computed, p => by
    rw [resolvePath]
    rcases pathOf_cases (stepOf computed property (resolve s property (p.child 1)))
      (resolvePath s object (p.child 0)) with ⟨hpath, hstep⟩ | ⟨hpath, hstep⟩
    · exact ⟨_, [], hpath, List.not_mem_nil, .inl (Segment.eq_unknown hstep)⟩
    · obtain ⟨first, rest, hobject, hknown, hfirst⟩ := resolvePath_shape object (p.child 0)
      rw [hobject, List.cons_append] at hpath
      refine ⟨first, _, hpath, fun hu => ?_, hfirst⟩
      rw [List.mem_append, List.mem_singleton] at hu
      rcases hu with hu | hu
      · exact hknown hu
      · rw [← hu] at hstep
        cases hstep
  | .self, _ | .literal .., _ | .array _, _ | .sequence _, _ | .unary .., _ | .binary .., _ | .logical .., _
  | .conditional .., _ | .call .., _ => ⟨.unknown, [], rfl, List.not_mem_nil, .inl rfl⟩

/-- Only a bare name has no step before it. -/
theorem isName_of_path {n : String} (h : (resolvePath s callee p).result = [.name n]) : ∃ n, callee = .name n := by
  cases callee with
  | name n => exact ⟨n, rfl⟩
  | member object property computed =>
    rw [resolvePath] at h
    rcases pathOf_cases (stepOf computed property (resolve s property (p.child 1)))
      (resolvePath s object (p.child 0)) with ⟨hpath, hstep⟩ | ⟨hpath, -⟩
    · rw [List.cons.inj (hpath.symm.trans h) |>.1] at hstep
      cases hstep
    · obtain ⟨first, rest, hobject, -⟩ := resolvePath_shape (s := s) object (p.child 0)
      rw [hobject] at hpath
      have hlength := congrArg List.length (hpath.symm.trans h)
      simp at hlength
  | _ => cases h

/-- **The call site of a callee and arguments is shaped by them.** -/
theorem shaped_of_resolveCall (h : (resolveCall s callee arguments p).result = some c) :
    c.Shaped callee arguments := by
  obtain ⟨hpath, hargs⟩ := resolveCall_eq_some h
  obtain ⟨first, rest, hsteps, hknown, hfirst⟩ := resolvePath_shape (s := s) callee (p.child 0)
  have hcons : first :: rest = c.path ++ [.name c.name] := hsteps.symm.trans hpath
  refine ⟨?_, fun i hi => ?_, ⟨fun hnil => ?_, ?_⟩, fun step hstep => ?_, fun items hitems => ?_⟩
  · rw [hargs, List.length_map, length_resolveEach]
  · cases i with
    | zero => rfl
    | succ i =>
      have hrest : (first :: rest)[i + 1]? = some .unknown := by
        rw [hcons, List.getElem?_append_left (List.getElem?_eq_some_iff.1 hi).1]
        exact hi
      exact absurd (List.mem_of_getElem? (l := rest) (i := i) hrest) hknown
  · rw [hnil] at hpath
    exact isName_of_path hpath
  · rintro ⟨n, rfl⟩
    have hname : [] ++ [Segment.name n] = c.path ++ [.name c.name] := hpath
    exact (List.append_inj_left' hname rfl).symm
  · obtain ⟨steps, hsteps⟩ := List.head?_eq_some_iff.1 hstep
    rw [hsteps] at hcons
    obtain rfl := (List.cons.inj hcons).1
    exact hfirst
  · have hresult : ((call callee arguments).resolve s p).result = c.toDescriptor := by
      rw [result_resolve_call, site?, h]
    exact array_resolve (call callee arguments) (hresult ▸ hitems)

/-- The calls in what a formula resolves to are call sites of its nodes. -/
theorem exists_node_of_holds (h : (f.resolve s p).result.Holds c.toDescriptor) : ∃ callee arguments q,
    (call callee arguments, q) ∈ f.walked p ∧ (resolveCall s callee arguments q).result = some c := by
  have hmem := (calls_resolve f p).subset (Descriptor.mem_calls_iff.2 h)
  obtain ⟨⟨g, q⟩, hg, hsite⟩ := List.mem_filterMap.1 hmem
  cases g with
  | call callee arguments => exact ⟨callee, arguments, q, hg, hsite⟩
  | _ => cases hsite

end Formula

open Formula

/-- **Call sites are shaped by their calls.** Whatever the context and the policy: the call site of a call has an
argument for each of its arguments; its path is empty for a bare name only, begins with the name at the root of the
callee or with what is unknown, and knows all other steps; and each array in it, however deep, has no unknown items, but
a call in it. All calls in what a formula resolves to, however deep, are such call sites of calls in the formula. -/
theorem sites_shaped (s : Scope) :
    (∀ callee arguments p c, (resolveCall s callee arguments p).result = some c → c.Shaped callee arguments) ∧
    ∀ (f : Formula) p (c : CallSite), (f.resolve s p).result.Holds c.toDescriptor → ∃ callee arguments q,
      (call callee arguments, q) ∈ f.walked p ∧ (resolveCall s callee arguments q).result = some c ∧
        c.Shaped callee arguments := by
  refine ⟨fun callee arguments p c h => shaped_of_resolveCall h, fun f p c h => ?_⟩
  obtain ⟨callee, arguments, q, hnode, hsite⟩ := exists_node_of_holds h
  exact ⟨callee, arguments, q, hnode, hsite, shaped_of_resolveCall hsite⟩

/-- `a[f()].b(x, [true, g("s")])`, of which nothing is known but its literals. -/
theorem sites_shaped_nested :
    let s : Scope := ⟨none, none⟩
    let callee : Formula := .member (.member (.name "a") (.call (.name "f") []) true) (.name "b") false
    let arguments : List Formula :=
      [.name "x", .array [.literal (.boolean true) none, .call (.name "g") [.literal (.text "s") none]]]
    let inner : CallSite := ⟨"g", [], [.value (.text "s")]⟩
    let c : CallSite := ⟨"b", [.unknown], [.unknown, .array [.value (.boolean true), inner.toDescriptor]]⟩
    let f : Formula := .call callee arguments
    (resolveCall s callee arguments (.root 3)).result = some c ∧ c.Shaped callee arguments ∧
      (f.resolve s (.root 3)).result.Holds inner.toDescriptor ∧ ∃ callee' arguments' q,
        (.call callee' arguments', q) ∈ f.walked (.root 3) ∧
          (resolveCall s callee' arguments' q).result = some inner ∧ inner.Shaped callee' arguments' := by
  intro s callee arguments inner c f
  have hc : (resolveCall s callee arguments (.root 3)).result = some c := rfl
  have hinner : (f.resolve s (.root 3)).result.Holds inner.toDescriptor :=
    .part (.tail _ (.head _)) (.part (.tail _ (.head _)) (.self _))
  exact ⟨hc, (sites_shaped s).1 callee arguments (.root 3) c hc, hinner, (sites_shaped s).2 f (.root 3) inner hinner⟩

end GatedFormula
