/-
  Members that may not be read do not influence evaluation.
  - `Timed.Matches`: two timed results are there at the same time, with the same fault or related.
  - `Formula.timeline_matches`: timelines of a formula without calls match in contexts that are the same
    under the policy.
  - `evaluate_noninterference`: so do the results of evaluations.
-/
import GatedFormula.Proofs.Observation
import GatedFormula.Proofs.Timing

namespace GatedFormula

/-- Two outcomes have the same counts and values that are the same under a policy. -/
structure Outcome.SameUnder (policy : Option Policy) (a b : Outcome) : Prop where
  value : Value.SameUnder policy a.value b.value
  nodes : a.nodes = b.nodes
  calls : a.calls = b.calls

/-- Two contexts have the same identity and the same names, and what these stand for is the same under a
policy. -/
structure Context.SameUnder (policy : Option Policy) (c d : Context) : Prop where
  id : c.id = d.id
  keys : c.members.keys = d.members.keys
  get : ∀ n v w, c.get? n = some v → d.get? n = some w → Value.SameUnder policy v w

namespace Timed

/-- Results at the same time, both the same fault or related. -/
structure Matches {α β : Type} (R : α → β → Prop) (x : Timed α) (y : Timed β) : Prop where
  time : x.time = y.time
  result : SameResult R x.result y.result

namespace Matches

variable {α β γ δ : Type} {R : α → β → Prop} {S : γ → δ → Prop} {x : Timed α} {y : Timed β}

theorem after {k : Nat → α → Timed γ} {l : Nat → β → Timed δ} (h : Matches R x y)
    (hk : ∀ t a b, R a b → Matches S (k t a) (l t b)) : Matches S (x.after k) (y.after l) := by
  obtain ⟨t, r⟩ := x
  obtain ⟨u, q⟩ := y
  obtain ⟨ht, hr⟩ := h
  obtain rfl : t = u := ht
  cases hr with
  | ok h => exact hk t _ _ h
  | error f => exact ⟨rfl, .error f⟩

theorem map {g : α → γ} {h : β → δ} (hm : Matches R x y) (hg : ∀ a b, R a b → S (g a) (h b)) :
    Matches S (x.map g) (y.map h) := by
  exact ⟨hm.time, hm.result.map hg⟩

theorem pair {u : Timed γ} {v : Timed δ} (h : Matches R x y) (h' : Matches S u v) :
    Matches (fun p q => R p.1 q.1 ∧ S p.2 q.2) (pair x u) (pair y v) := by
  obtain ⟨t, r⟩ := x
  obtain ⟨t', r'⟩ := y
  obtain ⟨ht, hr⟩ := h
  obtain rfl : t = t' := ht
  obtain ⟨t₁, q⟩ := u
  obtain ⟨t₂, q'⟩ := v
  obtain ⟨ht', hq⟩ := h'
  obtain rfl : t₁ = t₂ := ht'
  cases hr <;> cases hq
  · exact ⟨rfl, .ok ⟨‹_›, ‹_›⟩⟩
  · exact ⟨rfl, .error _⟩
  · exact ⟨rfl, .error _⟩
  · simp only [Timed.pair]
    split
    · exact ⟨rfl, .error _⟩
    · exact ⟨rfl, .error _⟩

theorem join {xs : List (Timed α)} {ys : List (Timed β)} (joint : Joint) (start : Nat)
    (h : List.Forall₂ (Matches R) xs ys) :
    Matches (List.Forall₂ R) (join joint start xs) (join joint start ys) := by
  cases joint with
  | eager =>
    induction h with
    | nil => exact ⟨rfl, .ok .nil⟩
    | cons h _ ih => exact (h.pair ih).map fun _ _ hp => .cons hp.1 hp.2
  | inOrder =>
    induction h with
    | nil => exact ⟨rfl, .ok .nil⟩
    | cons h _ ih =>
      simp only [Timed.join, joinInOrder] at ih ⊢
      refine h.after fun t a b hab => ⟨?_, ?_⟩
      · exact congrArg (max t) ih.time
      · exact (ih.map (g := (a :: ·)) (h := (b :: ·)) fun _ _ hs => .cons hab hs).result

end Matches

end Timed

namespace Outcome.SameUnder

variable {policy : Option Policy}

theorem node {v w : Value} {os os' : List Outcome} (hv : Value.SameUnder policy v w)
    (h : List.Forall₂ (SameUnder policy) os os') : SameUnder policy (.node v os) (.node w os') := by
  refine ⟨hv, ?_, ?_⟩
  · induction h with
    | nil => rfl
    | @cons a b as bs h _ ih =>
      change a.nodes + (Outcome.node v as).nodes = b.nodes + (Outcome.node w bs).nodes
      rw [h.nodes, ih]
  · induction h with
    | nil => rfl
    | @cons a b as bs h _ ih =>
      change a.calls + (Outcome.node v as).calls = b.calls + (Outcome.node w bs).calls
      rw [h.calls, ih]

theorem values {os os' : List Outcome} (h : List.Forall₂ (SameUnder policy) os os') :
    List.Forall₂ (Value.SameUnder policy) (os.map Outcome.value) (os'.map Outcome.value) := by
  induction h with
  | nil => exact .nil
  | cons h _ ih => exact .cons h.value ih

end Outcome.SameUnder

theorem Context.SameUnder.toValue {policy : Option Policy} {c d : Context} (h : c.SameUnder policy d) :
    Value.SameUnder policy c.toValue d.toValue := by
  unfold Context.toValue Value.ofMap
  rw [← h.id]
  exact .record c.id h.keys fun k v w hv hw _ => h.get k v w hv hw

theorem Context.SameUnder.get_cases {policy : Option Policy} {c d : Context} (h : c.SameUnder policy d)
    (n : String) : Option.Rel (Value.SameUnder policy) (c.get? n) (d.get? n) := by
  have hs : (c.get? n).isSome = (d.get? n).isSome := Value.SameUnder.lookup_isSome_eq h.keys n
  cases hc : c.get? n <;> cases hd : d.get? n <;> simp [hc, hd] at hs
  · exact .none
  · exact .some (h.get n _ _ hc hd)

/-- Two settings with the same policy and with contexts that are the same under it. The policy judges values
alike that are the same under it. -/
structure Setting.SameUnder (policy : Option Policy) (s s' : Setting) : Prop where
  context : s.context.SameUnder policy s'.context
  left : s.policy = policy
  right : s'.policy = policy
  fair : ∀ v w, Value.SameUnder policy v w → ∀ k, isPermitted policy v k = isPermitted policy w k

namespace Formula

open Timed

variable {policy : Option Policy} {s s' : Setting}

theorem sameResult_read (h : s.SameUnder policy s') {a b key key' : Value} (ho : Value.SameUnder policy a b)
    (hk : Value.SameUnder policy key key') :
    SameResult (Value.SameUnder policy) (s.read a key) (s'.read b key') := by
  unfold Setting.read
  rw [← ho.isUndefined_eq, ← hk.key?_eq, ← hk.typeName_eq, h.left, h.right]
  by_cases hu : a.isUndefined
  · simp only [if_pos hu]
    exact .error _
  · simp only [if_neg hu]
    cases key.key? with
    | none => exact .error _
    | some k => exact ho.readMember h.fair k

theorem sameResult_map {v : Except Fault Value} {g h : Value → Outcome}
    (hgh : ∀ a, Outcome.SameUnder policy (g a) (h a)) :
    SameResult (Outcome.SameUnder policy) (v.map g) (v.map h) := by
  cases v with
  | ok a => exact .ok (hgh a)
  | error f => exact .error f

/-- The timelines of the formula at a place match, whenever they start. -/
def MatchesUnder (policy : Option Policy) (s s' : Setting) (f : Formula) (p : Place) : Prop :=
  ∀ start, Matches (Outcome.SameUnder policy) (timeline s f p start) (timeline s' f p start)

/-! ## Nodes whose timelines match if those of their parts do -/

section
variable {p : Place}

theorem matches_name (h : s.SameUnder policy s') (n : String) : MatchesUnder policy s s' (.name n) p := by
  intro start
  have hg := h.context.get_cases n
  rw [timeline, timeline]
  cases hv : s.context.get? n <;> cases hw : s'.context.get? n <;> rw [hv, hw] at hg <;> cases hg
  · exact ⟨rfl, .error _⟩
  · exact ⟨rfl, .ok ⟨‹_›, rfl, rfl⟩⟩

theorem matches_binary {op : String} {l r : Formula} (hl : MatchesUnder policy s s' l (p.child 0))
    (hr : MatchesUnder policy s s' r (p.child 1)) : MatchesUnder policy s s' (.binary op l r) p := by
  intro start
  refine ((hl start).pair (hr start)).after fun t a b hab => ⟨rfl, ?_⟩
  obtain ⟨a, a'⟩ := a
  obtain ⟨b, b'⟩ := b
  obtain ⟨h₁, h₂⟩ := hab
  dsimp only
  rw [h₁.value.applyBinary_eq op h₂.value]
  exact sameResult_map fun v => .node (.refl v) (.cons h₁ (.cons h₂ .nil))

theorem matches_conditional {t c a : Formula} (ht : MatchesUnder policy s s' t (p.child 0))
    (hc : MatchesUnder policy s s' c (p.child 1)) (ha : MatchesUnder policy s s' a (p.child 2)) :
    MatchesUnder policy s s' (.conditional t c a) p := by
  intro start
  refine (ht start).after fun now o o' ho => ?_
  rw [← ho.value.isTruthy_eq]
  by_cases htrue : o.value.isTruthy
  · rw [if_pos htrue, if_pos htrue]
    exact (hc now).map fun _ _ hab => .node hab.value (.cons ho (.cons hab .nil))
  · rw [if_neg htrue, if_neg htrue]
    exact (ha now).map fun _ _ hab => .node hab.value (.cons ho (.cons hab .nil))

theorem matches_logical {op : String} {l r : Formula} (hl : MatchesUnder policy s s' l (p.child 0))
    (hr : MatchesUnder policy s s' r (p.child 1)) : MatchesUnder policy s s' (.logical op l r) p := by
  intro start
  refine (hl start).after fun now o o' ho => ?_
  cases LogicalOperator.ofSymbol? op with
  | none => exact ⟨rfl, .error _⟩
  | some op =>
    dsimp only
    rw [← ho.value.isTruthy_eq]
    by_cases hn : op.needsRight o.value.isTruthy
    · rw [if_pos hn, if_pos hn]
      exact (hr now).map fun _ _ hab => .node hab.value (.cons ho (.cons hab .nil))
    · rw [if_neg hn, if_neg hn]
      exact ⟨rfl, .ok (.node ho.value (.cons ho .nil))⟩

theorem matches_key {computed : Bool} {property : Formula} (h : MatchesUnder policy s s' property p) (start : Nat) :
    Matches (Outcome.SameUnder policy) (keyFrom s computed property p start)
      (keyFrom s' computed property p start) := by
  cases computed with
  | true => exact h start
  | false =>
    simp only [keyFrom]
    cases property.name? with
    | some n => exact ⟨rfl, .ok ⟨.text n, rfl, rfl⟩⟩
    | none => exact ⟨rfl, .error _⟩

/-- What is read matches because the policy does not let the difference be read. -/
theorem matches_member (h : s.SameUnder policy s') {object property : Formula} {computed : Bool}
    (ho : MatchesUnder policy s s' object (p.child 0)) (hk : MatchesUnder policy s s' property (p.child 1)) :
    MatchesUnder policy s s' (.member object property computed) p := by
  intro start
  rw [timeline_member, timeline_member]
  refine ((ho start).pair (matches_key hk start)).after fun t a b hab => ⟨rfl, ?_⟩
  obtain ⟨a, a'⟩ := a
  obtain ⟨b, b'⟩ := b
  obtain ⟨h₁, h₂⟩ := hab
  exact (sameResult_read h h₁.value h₂.value).map fun _ _ hv => .node hv (.cons h₁ (.cons h₂ .nil))

end

mutual
/-- **Timelines of a formula without calls match.** -/
theorem timeline_matches (h : s.SameUnder policy s') : (f : Formula) → (p : Place) → f.callCount = 0 →
    MatchesUnder policy s s' f p
  | .array elements, p, hc => fun start => by
    have hs := timelines_match h elements p 0 start hc
    exact (Matches.join _ start hs).map fun _ _ ho => .node (.array p (Outcome.SameUnder.values ho)) ho
  | .binary op l r, p, hc => by
    simp only [callCount] at hc
    exact matches_binary (timeline_matches h l _ (by omega)) (timeline_matches h r _ (by omega))
  | .call callee arguments, p, hc => by
    simp only [callCount] at hc
    omega
  | .sequence body, p, hc => fun start => timelineInTurn_matches h body p 0 0 start hc
  | .conditional t c a, p, hc => by
    simp only [callCount] at hc
    exact matches_conditional (timeline_matches h t _ (by omega)) (timeline_matches h c _ (by omega))
      (timeline_matches h a _ (by omega))
  | .name n, p, _ => matches_name h n
  | .literal v _, _, _ => fun _ => ⟨rfl, .ok ⟨.refl v.toValue, rfl, rfl⟩⟩
  | .logical op l r, p, hc => by
    simp only [callCount] at hc
    exact matches_logical (timeline_matches h l _ (by omega)) (timeline_matches h r _ (by omega))
  | .member object property computed, p, hc => by
    simp only [callCount] at hc
    exact matches_member h (timeline_matches h object _ (by omega)) (timeline_matches h property _ (by omega))
  | .self, _, _ => fun _ => ⟨rfl, .ok ⟨h.context.toValue, rfl, rfl⟩⟩
  | .unary op a _, p, hc => fun start => by
    refine (timeline_matches h a (p.child 0) hc start).after fun t o o' ho => ⟨rfl, ?_⟩
    dsimp only
    rw [ho.value.applyUnary_eq op]
    exact sameResult_map fun v => .node (.refl v) (.cons ho .nil)

theorem timelines_match (h : s.SameUnder policy s') : (fs : List Formula) → (p : Place) →
    (i start : Nat) → callCountAll fs = 0 →
      List.Forall₂ (Matches (Outcome.SameUnder policy)) (timelines s fs p i start) (timelines s' fs p i start)
  | [], _, _, _, _ => .nil
  | f :: rest, p, i, start, hc => by
    simp only [callCountAll] at hc
    exact .cons (timeline_matches h f _ (by omega) start) (timelines_match h rest p (i + 1) start (by omega))

theorem timelineInTurn_matches (h : s.SameUnder policy s') : (fs : List Formula) → (p : Place) →
    (i calls start : Nat) → callCountAll fs = 0 →
      Matches (Outcome.SameUnder policy) (timelineInTurn s fs p i calls start)
        (timelineInTurn s' fs p i calls start)
  | [], _, _, _, _, _ => ⟨rfl, .error _⟩
  | [f], p, i, calls, start, hc => by
    have hf := timeline_matches h f (p.child i) hc start
    refine hf.map fun o o' ho => ⟨ho.value, ?_, ?_⟩
    · rw [ho.nodes]
    · rw [ho.calls]
  | f :: g :: rest, p, i, calls, start, hc => by
    rw [callCountAll] at hc
    have hf := timeline_matches h f (p.child i) (by omega) start
    simp only [timelineInTurn]
    refine hf.after fun now o o' ho => ?_
    rw [ho.calls]
    exact timelineInTurn_matches h (g :: rest) p (i + 1) _ now (by omega)
end

end Formula

/-- **Members that may not be read do not influence evaluation.** Take a policy that judges values alike if
they are the same under it, and two contexts that are the same under it: the same names for values that differ,
at any depth, only in members of records that the policy keeps closed. A formula without calls then fails with
the same fault in both, or has values that are the same under the policy, with equal counts. -/
theorem evaluate_noninterference {policy : Option Policy} {s s' : Setting}
    (hs : s.policy = policy) (hs' : s'.policy = policy) (hc : s.context.SameUnder policy s'.context)
    (hfair : ∀ v w, Value.SameUnder policy v w → ∀ k, isPermitted policy v k = isPermitted policy w k)
    {f : Formula} (hf : f.callCount = 0) (origin : Place) :
    SameResult (Outcome.SameUnder policy) (evaluate s f origin).result (evaluate s' f origin).result := by
  have hm := f.timeline_matches ⟨hc, hs, hs', hfair⟩ origin hf 0
  rw [← evaluate_timed, ← evaluate_timed] at hm
  exact hm.result

/-- Who may read all but pins cannot tell `[user.name, user]` for two users who differ in their pins. -/
theorem evaluate_noninterference_pin :
    let policy : Option Policy := some ⟨[fun _ k => k.text != "pin"]⟩
    let user (pin : Value) : Value := .record (.root 1) [("name", .text "ann"), ("pin", pin)]
    let s (pin : Value) : Setting :=
      ⟨⟨.root 0, ⟨[("user", user pin)], by simp⟩⟩, policy, Setting.sample.host⟩
    let f : Formula := .array [.member (.name "user") (.name "name") false, .name "user"]
    (∀ v w, Value.SameUnder policy v w → ∀ k, isPermitted policy v k = isPermitted policy w k) ∧
      (s (.number 1)).context.SameUnder policy (s (.text "x")).context ∧
      ∃ a b, (evaluate (s (.number 1)) f (.root 3)).result = .ok a ∧
        (evaluate (s (.text "x")) f (.root 3)).result = .ok b ∧ a.SameUnder policy b := by
  intro policy user s f
  have hfair : ∀ v w, Value.SameUnder policy v w → ∀ k, isPermitted policy v k = isPermitted policy w k :=
    fun _ _ _ _ => rfl
  have huser : Value.SameUnder policy (user (.number 1)) (user (.text "x")) := by
    refine .record _ rfl fun k v w hv hw ho => ?_
    by_cases hpin : k = "pin"
    · obtain ⟨key, rfl, hk⟩ := ho
      simp [isPermitted, policy, Policy.permits, hpin] at hk
    · by_cases hname : k = "name"
      · subst hname
        cases hv
        cases hw
        exact .text "ann"
      · simp [List.lookup_cons, beq_eq_false_iff_ne.2 hname, beq_eq_false_iff_ne.2 hpin] at hv
  have hc : (s (.number 1)).context.SameUnder policy (s (.text "x")).context := by
    refine ⟨rfl, rfl, fun n v w hv hw => ?_⟩
    by_cases hn : n = "user"
    · subst hn
      cases hv
      cases hw
      exact huser
    · simp [Context.get?, OrderedMap.get?, s, List.lookup_cons, beq_eq_false_iff_ne.2 hn] at hv
  have h := @evaluate_noninterference policy (s (.number 1)) (s (.text "x")) rfl rfl hc hfair f rfl (.root 3)
  refine ⟨hfair, hc, ?_⟩
  generalize ha : (evaluate (s (.number 1)) f (.root 3)).result = a at h
  generalize hb : (evaluate (s (.text "x")) f (.root 3)).result = b at h
  cases h with
  | ok hab => exact ⟨_, _, rfl, rfl, hab⟩
  | error g => cases ha

end GatedFormula
