/-
  The inventory of the calls in a formula.
  - `CallSite.MovedTo`: the same call site, but for arrays made below another place. What is refined both ways is
    the same (`Descriptor.RefinedBy.antisymm`), so call sites do not depend on where a formula stands
    (`calls_moved`).
  - Resolving notes nothing in the journal but denied reads (`notesDenials_resolve`), so the journal tells of the
    call sites that are listed (`journal_analyzed`).
  - `analyze_calls`: the inventory is complete and exact.
-/
import GatedFormula.Proofs.Refinement

namespace GatedFormula

open Static

variable {s : Scope}

/-! ## Places -/

theorem PathRefined.length_le {path path' : List Segment} (h : PathRefined path path') :
    path.length ≤ path'.length := by
  cases h with
  | same => exact Nat.le_refl _
  | opened h rest =>
    have hl := List.length_pos_iff.2 h
    rw [List.length_append, List.length_cons]
    omega

/-- What is refined both ways is the same path. -/
theorem PathRefined.antisymm {path path' : List Segment} (h : PathRefined path path') (h' : PathRefined path' path) :
    path = path' := by
  cases h with
  | same => rfl
  | @opened first hf rest =>
    have hl := h'.length_le
    obtain _ | ⟨x, _ | ⟨y, first⟩⟩ := first
    · exact absurd rfl hf
    · generalize hq : Segment.unknown :: rest = path at h'
      cases h' with
      | same => rfl
      | opened => exact hq.symm
    · -- several steps would make the path longer
      simp only [List.length_append, List.length_cons] at hl
      omega

/-- The same descriptor, but for arrays made below `p` that are made below `q` instead. -/
inductive Descriptor.MovedTo (p q : Place) : Descriptor → Descriptor → Prop
  | value {v w : Value} (h : v.MovedTo p q w) : MovedTo p q (.value v) (.value w)
  | array {items items' : List Descriptor} (h : List.Forall₂ (MovedTo p q) items items') :
      MovedTo p q (.array items) (.array items')
  | call {name : String} {path : List Segment} {args args' : List Descriptor}
      (h : List.Forall₂ (MovedTo p q) args args') : MovedTo p q (.call name path args) (.call name path args')
  | unknown : MovedTo p q .unknown .unknown

/-- The same call site, but for arrays made below another place. -/
structure CallSite.MovedTo (p q : Place) (c c' : CallSite) : Prop where
  name : c'.name = c.name
  path : c'.path = c.path
  args : List.Forall₂ (Descriptor.MovedTo p q) c.args c'.args

mutual
/-- What is refined both ways is the same. -/
theorem Descriptor.RefinedBy.antisymm {p q : Place} {R : Value → Value → Prop} : {d d' : Descriptor} →
    d.RefinedBy (Value.MovedTo p q) d' → d'.RefinedBy R d → d.MovedTo p q d'
  | _, _, .unknown _, .unknown _ => .unknown
  | _, _, .value h, _ => .value h
  | _, _, .array h, .array h' => .array (allAntisymm h h')
  | _, _, .call hp ha, .call hp' ha' => by
    rw [hp.antisymm hp']
    exact .call (allAntisymm ha ha')

theorem Descriptor.RefinedBy.allAntisymm {p q : Place} {R : Value → Value → Prop} : {ds ds' : List Descriptor} →
    List.Forall₂ (Descriptor.RefinedBy (Value.MovedTo p q)) ds ds' → List.Forall₂ (Descriptor.RefinedBy R) ds' ds →
      List.Forall₂ (Descriptor.MovedTo p q) ds ds'
  | _, _, .nil, _ => .nil
  | _, _, .cons h hs, .cons h' hs' => .cons (h.antisymm h') (allAntisymm hs hs')
end

/-- What is refined both ways is the same call site. -/
theorem CallSite.RefinedBy.antisymm {p q : Place} {R : Value → Value → Prop} {c c' : CallSite}
    (h : c.RefinedBy (Value.MovedTo p q) c') (h' : c'.RefinedBy R c) : c.MovedTo p q c' :=
  ⟨h.name, h'.path.antisymm h.path, Descriptor.RefinedBy.allAntisymm h.args h'.args⟩

/-- A node has the same call site wherever the formula stands, if any. -/
theorem Formula.site?_moved (s : Scope) (p q : Place) (f : Formula) (path : List Nat) :
    Option.Rel (CallSite.MovedTo p q) (f.site? s (p.below path)) (f.site? s (q.below path)) := by
  cases hp : f.site? s (p.below path) with
  | some c =>
    obtain ⟨c', hq, hr⟩ := site?_refined (.refl s) p q hp
    obtain ⟨c'', hp', hr'⟩ := site?_refined (.refl s) q p hq
    obtain rfl := Option.some.inj (hp.symm.trans hp')
    rw [hq]
    exact .some (hr.antisymm hr')
  | none =>
    cases hq : f.site? s (q.below path) with
    | none => exact .none
    | some c' =>
      obtain ⟨c, hp', -⟩ := site?_refined (.refl s) q p hq
      cases hp.symm.trans hp'

/-- **The call sites of a formula are the same wherever it stands.** -/
theorem calls_moved (s : Scope) (f : Formula) (p q : Place) :
    List.Forall₂ (CallSite.MovedTo p q) (analyze s f p).calls (analyze s f q).calls := by
  rw [calls_below, calls_below]
  generalize f.walked ⟨[]⟩ = nodes
  have hn : List.Forall₂ Eq nodes nodes := List.forall₂_refl nodes
  refine List.rel_filterMap ?_ hn
  rintro n _ rfl
  exact n.1.site?_moved s p q n.2.path

/-! ## Journals -/

/-- All that is noted is that reads were denied. -/
def Resolution.NotesDenials {α : Type} (r : Resolution α) : Prop := ∀ e ∈ r.entries, ∃ v k, e = denialEntry v k

namespace Resolution

variable {α β : Type}

theorem notesDenials_pure (a : α) : (Pure.pure a : Resolution α).NotesDenials := nofun

theorem notesDenials_report (p : Place) (f : Fault) : (report p f).NotesDenials := nofun

theorem NotesDenials.bind {r : Resolution α} {k : α → Resolution β} (h : r.NotesDenials)
    (hk : (k r.result).NotesDenials) : (r >>= k).NotesDenials := by
  intro e he
  have hm : e ∈ r.entries ++ (k r.result).entries := he
  rcases List.mem_append.1 hm with hm | hm
  · exact h e hm
  · exact hk e hm

theorem NotesDenials.quiet {r : Resolution α} (h : r.NotesDenials) : r.quiet.NotesDenials := h

end Resolution

namespace Static

open Resolution

theorem notesDenials_nameOf (n : String) (p : Place) : (nameOf s n p).NotesDenials := by
  unfold nameOf
  split
  · exact notesDenials_pure _
  · split
    · exact notesDenials_pure _
    · exact (notesDenials_report _ _).bind (notesDenials_pure _)

theorem notesDenials_stepOf {computed : Bool} {property : Formula} {r : Resolution Descriptor}
    (h : r.NotesDenials) : (stepOf computed property r).NotesDenials := by
  unfold stepOf
  split
  · refine h.quiet.bind ?_
    split <;> exact notesDenials_pure _
  · split <;> exact notesDenials_pure _

theorem notesDenials_objectOf {object : Formula} {r : Resolution Descriptor} (h : r.NotesDenials) :
    (objectOf object r).NotesDenials := by
  cases object with
  | member => exact h
  | name => exact h.quiet
  | _ => exact notesDenials_pure _

theorem notesDenials_readOf (object : Descriptor) (k : Key) (p : Place) : (readOf s object k p).NotesDenials := by
  unfold readOf
  split
  · rename_i v
    split
    · exact notesDenials_pure _
    · split
      · exact notesDenials_pure _
      · intro e he
        obtain rfl := List.mem_singleton.1 he
        exact ⟨v, k, rfl⟩
  · exact notesDenials_pure _

theorem notesDenials_memberOf {step : Resolution Segment} {object : Resolution Descriptor}
    (hs : step.NotesDenials) (ho : object.NotesDenials) (p : Place) : (memberOf s step object p).NotesDenials := by
  unfold memberOf
  split
  · exact notesDenials_pure _
  · refine hs.bind ?_
    split
    · exact notesDenials_pure _
    · exact (notesDenials_report _ _).bind (notesDenials_pure _)
    · exact ho.bind (notesDenials_readOf _ _ _)
    · exact ho.bind (notesDenials_readOf _ _ _)

theorem notesDenials_arrayOf {p : Place} {done : List Descriptor} {rs : List (Resolution Descriptor)}
    (h : ∀ r ∈ rs, r.NotesDenials) : (arrayOf p done rs).NotesDenials := by
  induction rs generalizing done with
  | nil => exact notesDenials_pure _
  | cons r rest ih =>
    rw [arrayOf]
    refine (h r List.mem_cons_self).bind ?_
    split
    · exact notesDenials_pure _
    · exact ih fun r' hr' => h r' (List.mem_cons_of_mem _ hr')

theorem notesDenials_allOf {rs : List (Resolution Descriptor)} (h : ∀ r ∈ rs, r.NotesDenials) :
    (allOf rs).NotesDenials := by
  induction rs with
  | nil => exact notesDenials_pure _
  | cons r rest ih =>
    have hr := ih fun r' hr' => h r' (List.mem_cons_of_mem _ hr')
    rw [allOf]
    exact (h r List.mem_cons_self).bind (hr.bind (notesDenials_pure _))

theorem notesDenials_pathOf {step : Resolution Segment} {object : Resolution (List Segment)}
    (hs : step.NotesDenials) (ho : object.NotesDenials) : (pathOf step object).NotesDenials := by
  refine hs.bind ?_
  split
  · exact notesDenials_pure _
  · exact ho.bind (notesDenials_pure _)

theorem notesDenials_siteOf {path : Resolution (List Segment)} {args : List (Resolution Descriptor)}
    (hp : path.NotesDenials) (ha : ∀ r ∈ args, r.NotesDenials) : (siteOf path args).NotesDenials := by
  refine hp.bind ?_
  split
  · exact (notesDenials_allOf ha).bind (notesDenials_pure _)
  · exact notesDenials_pure _

end Static

namespace Formula

open Resolution

mutual
/-- **Resolving notes nothing but denied reads.** -/
theorem notesDenials_resolve : (f : Formula) → (p : Place) → (resolve s f p).NotesDenials
  | .literal .., _ => notesDenials_pure _
  | .name n, p => notesDenials_nameOf n p
  | .member object property _, p =>
    notesDenials_memberOf (notesDenials_stepOf (notesDenials_resolve property _))
      (notesDenials_objectOf (notesDenials_resolve object _)) p
  | .array elements, p => (notesDenials_arrayOf (notesDenials_resolveEach elements p 0)).quiet
  | .call callee arguments, p => by
    have hs := notesDenials_siteOf (notesDenials_resolvePath callee (p.child 0))
      (notesDenials_resolveEach arguments p 1)
    refine hs.quiet.bind ?_
    split <;> exact notesDenials_pure _
  | .binary .., _ | .sequence _, _ | .conditional .., _ | .logical .., _ | .self, _ | .unary .., _ =>
    notesDenials_pure _

theorem notesDenials_resolveEach : (fs : List Formula) → (p : Place) → (i : Nat) →
    ∀ r ∈ resolveEach s fs p i, r.NotesDenials
  | [], _, _, _, h => nomatch h
  | f :: rest, p, i, r, h => by
    rw [resolveEach] at h
    rcases List.mem_cons.1 h with rfl | h
    · exact notesDenials_resolve f _
    · exact notesDenials_resolveEach rest p (i + 1) r h

theorem notesDenials_resolvePath : (f : Formula) → (p : Place) → (resolvePath s f p).NotesDenials
  | .name _, _ => notesDenials_pure _
  | .member object property _, _ =>
    notesDenials_pathOf (notesDenials_stepOf (notesDenials_resolve property _))
      (notesDenials_resolvePath object _)
  | .array _, _ | .binary .., _ | .call .., _ | .sequence _, _ | .conditional .., _ | .literal .., _
  | .logical .., _ | .self, _ | .unary .., _ => notesDenials_pure _
end

end Formula

/-- Does an entry tell of a call site? -/
def Entry.isSite : Entry → Bool
  | .callSite _ => true
  | _ => false

theorem Resolution.NotesDenials.filter_entries {α : Type} {r : Resolution α} (h : r.NotesDenials) :
    r.entries.filter Entry.isSite = [] := by
  refine List.filter_eq_nil_iff.2 fun e he => ?_
  obtain ⟨v, k, rfl⟩ := h e he
  exact Bool.false_ne_true

namespace Formula

theorem entries_found (f : Formula) (p : Place) : (f.found s p).entries.filter Entry.isSite =
    (f.site? s p).toList.map fun c => Entry.callSite c.text := by
  cases f with
  | name n => exact (notesDenials_resolve (.name n) p).filter_entries
  | member object property computed =>
    exact (notesDenials_resolve (.member object property computed) p).filter_entries
  | call callee arguments =>
    have hs : (resolveCall s callee arguments p).NotesDenials :=
      notesDenials_siteOf (notesDenials_resolvePath callee (p.child 0)) (notesDenials_resolveEach arguments p 1)
    rw [found, site?]
    unfold Findings.ofCall
    cases (resolveCall s callee arguments p).result with
    | none => exact hs.filter_entries
    | some c =>
      change ((resolveCall s callee arguments p).entries ++ [Entry.callSite c.text]).filter Entry.isSite = _
      rw [List.filter_append, hs.filter_entries]
      rfl
  | sequence body =>
    rw [found]
    split <;> rfl
  | _ => rfl

theorem entries_gather (nodes : List (Formula × Place)) : (gather s nodes).entries.filter Entry.isSite =
    (sites s nodes).map fun c => Entry.callSite c.text := by
  induction nodes with
  | nil => rfl
  | cons n rest ih =>
    have ha : (gather s (n :: rest)).entries = (n.1.found s n.2).entries ++ (gather s rest).entries := rfl
    rw [ha, List.filter_append, entries_found, ih, sites_cons, List.map_append]

end Formula

open Formula

/-- **The journal tells of the call sites that are listed**, by their texts. -/
theorem journal_analyzed (s : Scope) (f : Formula) (origin : Place) :
    (analyzed s f origin).2.filter Entry.isSite = (analyze s f origin).calls.map fun c => Entry.callSite c.text := by
  have hj : (analyzed s f origin).2.filter Entry.isSite = (f.survey s origin).entries.filter Entry.isSite := by
    simp [analyzed, Entry.isSite]
  rw [hj, calls_analyze, survey_eq, entries_gather]

/-! ## The inventory -/

open scoped List

/-- **The inventory of the calls in a formula is complete and exact.**
- It lists the call sites of the nodes looked at, in the order of the walk, which comes to no place twice and
  leaves out nothing but the properties that are not computed.
- The call sites of a part stand together in it, and they are those of the part by itself, wherever that stands.
- The calls in the arguments of a call site are listed after it, in order.
- The journal tells of what is listed, by its text. -/
theorem analyze_calls (s : Scope) (f : Formula) (origin : Place) :
    ((analyze s f origin).calls = (f.walked origin).filterMap fun n => n.1.site? s n.2) ∧
      ((f.walked origin).map Prod.snd).Nodup ∧
      (∀ g q, f.HasNode origin g q → (g, q) ∈ f.walked origin ∨ ∃ object property r,
        (member object property false, r) ∈ f.walked origin ∧ property.HasNode (r.child 1) g q) ∧
      (∀ g q, (g, q) ∈ f.walked origin → (analyze s g q).calls <:+: (analyze s f origin).calls ∧
        ∀ p, List.Forall₂ (CallSite.MovedTo q p) (analyze s g q).calls (analyze s g p).calls) ∧
      (∀ before site after, (analyze s f origin).calls = before ++ site :: after →
        Descriptor.callsEach site.args <+ after) ∧
      ((analyzed s f origin).2.filter Entry.isSite).map (fun e => (e.level, e.message)) =
        (analyze s f origin).calls.map fun c => (.trace, "Found call site " ++ c.text) := by
  refine ⟨calls_analyze s f origin, walked_nodup f origin, fun g q => walked_of_hasNode, fun g q hg => ?_,
    fun before site after hc => ?_, ?_⟩
  · constructor
    · rw [calls_analyze, calls_analyze]
      exact (walked_isInfix f hg).filterMap _
    · exact calls_moved s g q
  · have hl := nestedLater_sites (s := s) f origin
    rw [← calls_analyze, hc] at hl
    exact hl.sublist
  · rw [journal_analyzed, List.map_map]
    rfl

theorem analyze_calls_echo :
    let callee : Formula := .member (.name "box") (.name "echo") false
    let part : Formula := .call callee [.literal (.text "a") none]
    let f : Formula := .call callee [.array [part]]
    let s := Setting.sample.scope
    let inner : CallSite := ⟨"echo", [.name "box"], [.value (.text "a")]⟩
    let outer : CallSite := ⟨"echo", [.name "box"], [.array [inner.toDescriptor]]⟩
    (analyze s f (.root 3)).calls = [outer, inner] ∧ Descriptor.callsEach outer.args <+ [inner] ∧
      (part, ⟨[0, 1, 3]⟩) ∈ f.walked (.root 3) ∧
      (analyze s part ⟨[0, 1, 3]⟩).calls <:+: (analyze s f (.root 3)).calls ∧
      List.Forall₂ (CallSite.MovedTo ⟨[0, 1, 3]⟩ (.root 4)) (analyze s part ⟨[0, 1, 3]⟩).calls
        (analyze s part (.root 4)).calls ∧
      f.HasNode (.root 3) (.name "echo") ⟨[1, 0, 3]⟩ ∧ ((.name "echo", ⟨[1, 0, 3]⟩) ∈ f.walked (.root 3) ∨
        ∃ object property r, (member object property false, r) ∈ f.walked (.root 3) ∧
          property.HasNode (r.child 1) (.name "echo") ⟨[1, 0, 3]⟩) := by
  intro callee part f s inner outer
  have hc : (analyze s f (.root 3)).calls = [] ++ outer :: [inner] := rfl
  have hp : (part, ⟨[0, 1, 3]⟩) ∈ f.walked (.root 3) := by
    simp [f, callee, part, walked, walkedEach, Place.root, Place.child]
  have hn : f.HasNode (.root 3) (.name "echo") ⟨[1, 0, 3]⟩ := ⟨[1, 0], rfl, rfl⟩
  obtain ⟨-, -, hnodes, hparts, hnested, -⟩ := analyze_calls s f (.root 3)
  exact ⟨hc, hnested _ _ _ hc, hp, (hparts _ _ hp).1, (hparts _ _ hp).2 _, hn, hnodes _ _ hn⟩

end GatedFormula
