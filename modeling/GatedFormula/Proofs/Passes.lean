/-
  Activities that go along with a trace of plain evaluation.
  - `Activity.Follows` relates an activity to the trace that plain evaluation would give: what it makes of its
    parts, one after the other from the left.
  - A pass at any instant keeps to the trace, up to the order of calls and the choice among faults
    (`follows_advance`); so does a run (`follows_run`).
  - An activity that never waits is done after one pass, with the very trace (`prompt_advance`). So it is with one
    that takes no jump in time (`Follows.of_within`).
-/
import GatedFormula.Proofs.Trace

namespace GatedFormula.Activity

open Traced

/-- The calls among events. -/
def callsIn (events : List Event) : List Invocation := events.filterMap Event.call?

@[simp] theorem callsIn_append (es es' : List Event) :
    callsIn (es ++ es') = callsIn es ++ callsIn es' := List.filterMap_append ..

theorem callsIn_cons (e : Event) (es : List Event) :
    callsIn (e :: es) = e.call?.toList ++ callsIn es := by
  cases h : e.call? <;> simp [callsIn, h]

mutual
/-- The activity does, in some order, what the trace says: all it tells is as `P` says, and it waits only if
`Late` holds. -/
inductive Follows (P : Event → Prop) (Late : Prop) : Activity → Traced (List Outcome) → Prop
  | settled (outs : List Outcome) : Follows P Late (.settled outs) ⟨[], .ok outs⟩
  | failed (f : Fault) : Follows P Late (.failed f) ⟨[], .error f⟩
  | telling {e : Event} {rest : Activity} {t : Traced (List Outcome)} (he : P e)
      (h : Follows P Late rest t) : Follows P Late (.telling e rest) (t.told e.call?.toList)
  | waiting {due : Nat} {rest : Activity} {t : Traced (List Outcome)} (hl : Late)
      (h : Follows P Late rest t) : Follows P Late (.waiting due rest) t
  | sequel {first : Activity} {next : Nat → List Outcome → Activity} {t : Traced (List Outcome)}
      {k : List Outcome → Traced (List Outcome)} (h : Follows P Late first t)
      (hk : ∀ now outs, t.result = .ok outs → Follows P Late (next now outs) (k outs)) :
      Follows P Late (.sequel first next) (t >>= k)
  | joined {joint : Joint} {members : List Activity} {t : Traced (List Outcome)}
      (h : FollowsAll P Late members t) : Follows P Late (.joined joint members) t

/-- The members do what the trace says of one after the other. -/
inductive FollowsAll (P : Event → Prop) (Late : Prop) : List Activity → Traced (List Outcome) → Prop
  | nil : FollowsAll P Late [] (pure [])
  | cons {m : Activity} {rest : List Activity} {t u : Traced (List Outcome)} (h : Follows P Late m t)
      (hr : FollowsAll P Late rest u) : FollowsAll P Late (m :: rest) (t.beside u)
end

variable {P : Event → Prop} {Late : Prop}

/-! ## What members have together -/

theorem FollowsAll.error_of_fault {members : List Activity} {t : Traced (List Outcome)} {m : Activity}
    (h : FollowsAll P Late members t) (hm : m ∈ members) (hf : m.fault?.isSome) :
    ∃ g, t.result = .error g := by
  induction members generalizing t with
  | nil => simp at hm
  | cons m' rest ih =>
    obtain _ | ⟨h, hr⟩ := h
    rename_i t u
    cases ht : t.result with
    | error g => exact ⟨g, by rw [beside_of_error ht]⟩
    | ok os =>
      rcases List.mem_cons.1 hm with rfl | hm
      · cases h <;> simp [fault?] at hf
        cases ht
      · obtain ⟨g, hg⟩ := ih hr hm
        exact ⟨g, by rw [beside_of_ok ht]; exact (result_map _ _).trans (by rw [hg]; rfl)⟩

theorem FollowsAll.eq_of_outcomes {members : List Activity} {t : Traced (List Outcome)}
    {outs : List Outcome} (h : FollowsAll P Late members t) (ho : outcomes? members = some outs) :
    t = ⟨[], .ok outs⟩ := by
  induction members generalizing t outs with
  | nil =>
    obtain rfl := Option.some.inj ho
    cases h
    rfl
  | cons m rest ih =>
    obtain _ | ⟨h, hr⟩ := h
    cases m with
    | settled os =>
      simp only [outcomes?, Option.map_eq_some_iff] at ho
      obtain ⟨os', ho, rfl⟩ := ho
      cases h
      rw [ih hr ho]
      rfl
    | _ => simp [outcomes?] at ho

/-- The fault that members have together is the fault of one of them. -/
theorem exists_fault {joint : Joint} {members : List Activity} {f : Fault}
    (h : commonFault? joint members = some f) : ∃ m ∈ members, m.fault?.isSome := by
  cases joint with
  | eager =>
    obtain ⟨m, hm, hf⟩ := List.exists_of_findSome?_eq_some h
    exact ⟨m, hm, by rw [hf]; rfl⟩
  | inOrder =>
    simp only [commonFault?, Option.bind_eq_some_iff] at h
    obtain ⟨m, hm, hf⟩ := h
    exact ⟨m, List.mem_of_find?_eq_some hm, by rw [hf]; rfl⟩

/-- Members taken together keep to their trace. -/
theorem FollowsAll.rejoined {members : List Activity} {t : Traced (List Outcome)} (joint : Joint)
    (h : FollowsAll P Late members t) :
    ∃ u, Follows P Late (rejoined joint members) u ∧ t.Agrees u := by
  unfold Activity.rejoined
  split
  · rename_i f hf
    obtain ⟨m, hm, hs⟩ := exists_fault hf
    obtain ⟨g, hg⟩ := h.error_of_fault hm hs
    exact ⟨_, .failed f, .of_errors hg rfl⟩
  · split
    · rename_i outs ho
      obtain rfl := h.eq_of_outcomes ho
      exact ⟨_, .settled outs, .refl _⟩
    · exact ⟨t, .joined h, .refl t⟩

/-! ## Passes and runs -/

/-- The events, all as `P` says, and then the second trace are as good as the first trace. -/
def Keeps (P : Event → Prop) (events : List Event) (t u : Traced (List Outcome)) : Prop :=
  t.Agrees (u.told (callsIn events)) ∧ ∀ e ∈ events, P e

namespace Keeps

variable {es es' : List Event} {t t' u u' : Traced (List Outcome)}

theorem of_agrees (h : t.Agrees u) : Keeps P [] t u := ⟨h, nofun⟩

theorem trans (h : Keeps P es t t') (h' : Keeps P es' t' u) : Keeps P (es ++ es') t u := by
  obtain ⟨ha, hP⟩ := h
  obtain ⟨ha', hP'⟩ := h'
  constructor
  · rw [callsIn_append, ← told_told]
    exact ha.trans (ha'.told (.refl _))
  · intro e he
    rcases List.mem_append.1 he with he | he
    · exact hP e he
    · exact hP' e he

theorem cons {e : Event} (he : P e) (h : Keeps P es t u) :
    Keeps P (e :: es) (t.told e.call?.toList) u := by
  obtain ⟨ha, hP⟩ := h
  constructor
  · rw [callsIn_cons, ← told_told]
    exact ha.told (.refl _)
  · intro e' he'
    rcases List.mem_cons.1 he' with rfl | he'
    · exact he
    · exact hP e' he'

theorem bind (h : Keeps P es t u) (k : List Outcome → Traced (List Outcome)) :
    Keeps P es (t >>= k) (u >>= k) := by
  obtain ⟨ha, hP⟩ := h
  refine ⟨?_, hP⟩
  rw [← told_bind]
  exact ha.bind fun _ _ => .refl _

theorem beside (h : Keeps P es t t') (h' : Keeps P es' u u') :
    Keeps P (es ++ es') (t.beside u) (t'.beside u') := by
  obtain ⟨ha, hP⟩ := h
  obtain ⟨ha', hP'⟩ := h'
  -- the calls of the second trace come before what is left of the first
  have hb : Keeps P es (t.beside u) (t'.beside (u'.told (callsIn es'))) :=
    ⟨by rw [← told_beside]; exact ha.beside ha', hP⟩
  exact hb.trans ⟨.beside_told _ t' u', hP'⟩

end Keeps

mutual
/-- **A pass keeps to the trace.** -/
theorem follows_advance (now : Nat) : (a : Activity) → {t : Traced (List Outcome)} →
    Follows P Late a t →
      ∃ u, Follows P Late (advance now a).2 u ∧ Keeps P (advance now a).1 t u
  | .settled outs, t, h => ⟨t, h, .of_agrees (.refl t)⟩
  | .failed f, t, h => ⟨t, h, .of_agrees (.refl t)⟩
  | .telling e rest, _, .telling he h => by
    obtain ⟨u, hu, hk⟩ := follows_advance now rest h
    exact ⟨u, hu, hk.cons he⟩
  | .waiting due rest, t, .waiting hl h => by
    simp only [advance]
    split
    · exact follows_advance now rest h
    · exact ⟨t, .waiting hl h, .of_agrees (.refl t)⟩
  | .sequel first next, _, .sequel (t := t) (k := k) h hk => by
    obtain ⟨u, hu, hf⟩ := follows_advance now first h
    have hb := hf.bind k
    simp only [advance]
    split
    · rename_i events outs heq
      rw [heq] at hu hf hb
      obtain _ | _ := hu
      have ht : t.result = .ok outs := hf.1.ok_iff.2 rfl
      obtain ⟨w, hw, hn⟩ := follows_advance now (next now outs) (hk now outs ht)
      exact ⟨w, hw, hb.trans hn⟩
    · rename_i events f heq
      rw [heq] at hu hb
      obtain _ | _ := hu
      exact ⟨_, .failed f, hb⟩
    · rename_i events first' hs hf' heq
      rw [heq] at hu hf hb
      exact ⟨_, .sequel hu fun now outs ho => hk now outs (hf.1.ok_iff.2 ho), hb⟩
  | .joined joint members, t, .joined h => by
    obtain ⟨u, hu, hk⟩ := followsAll_advanceAll now joint members true h
    obtain ⟨v, hv, ha⟩ := hu.rejoined joint
    have hv' := hk.trans (.of_agrees ha)
    rw [List.append_nil] at hv'
    exact ⟨v, hv, hv'⟩

/-- So does a pass over members, wherever a failure ends it. -/
theorem followsAll_advanceAll (now : Nat) (joint : Joint) : (members : List Activity) →
    (clear : Bool) → {t : Traced (List Outcome)} → FollowsAll P Late members t →
      ∃ u, FollowsAll P Late (advanceAll now joint clear members).2 u ∧
        Keeps P (advanceAll now joint clear members).1 t u
  | [], _, t, h => ⟨t, h, .of_agrees (.refl t)⟩
  | m :: rest, clear, _, .cons (u := u) h hr => by
    obtain ⟨t', ht, hk⟩ := follows_advance now m h
    simp only [advanceAll]
    split
    · have hb := hk.beside (.of_agrees (.refl u))
      rw [List.append_nil] at hb
      exact ⟨_, .cons ht hr, hb⟩
    · obtain ⟨u', hu, hk'⟩ :=
        followsAll_advanceAll now joint rest (clear && (advance now m).2.isSettled) hr
      exact ⟨_, .cons ht hu, hk.beside hk'⟩
end

/-- An activity that has a result follows that result. -/
theorem Follows.eq_of_result {a : Activity} {t : Traced (List Outcome)} {r : Except Fault (List Outcome)}
    (h : Follows P Late a t) (hr : a.result? = some r) : t = ⟨[], r⟩ := by
  cases h <;> simp [result?] at hr
  · rw [hr]
  · rw [hr]

/-- **A run keeps to the trace**: it has the value of the trace by the same calls, or fails with it. -/
theorem follows_run {waits now : Nat} {a : Activity} {t : Traced (List Outcome)}
    {ending : Timed (List Outcome)} (h : Follows P Late a t) (he : (run waits now a).2 = some ending) :
    Keeps P (run waits now a).1 t ⟨[], ending.result⟩ := by
  induction waits generalizing now a t with
  | zero =>
    obtain ⟨u, hu, hk⟩ := follows_advance now a h
    simp only [run, Option.map_eq_some_iff] at he ⊢
    obtain ⟨r, hr, rfl⟩ := he
    rw [hu.eq_of_result hr] at hk
    exact hk
  | succ waits ih =>
    obtain ⟨u, hu, hk⟩ := follows_advance now a h
    simp only [run] at he ⊢
    split at he
    · exact hk.trans (ih hu he)
    · obtain ⟨r, hr, rfl⟩ := Option.map_eq_some_iff.1 he
      rw [hu.eq_of_result hr] at hk
      exact hk

/-! ## Activities that never wait -/

theorem eq_settled {a : Activity} {outs : List Outcome} (h : a.result? = some (.ok outs)) :
    a = .settled outs := by
  cases a <;> simp [result?] at h
  rw [h]

theorem eq_failed {a : Activity} {f : Fault} (h : a.result? = some (.error f)) : a = .failed f := by
  cases a <;> simp [result?] at h
  rw [h]

/-- The members after a pass that meets a result at each of them: the trace of all is told and done. -/
def Prompt (joint : Joint) (members : List Activity) : Except Fault (List Outcome) → Prop
  | .ok outs => commonFault? joint members = none ∧ outcomes? members = some outs
  | .error f => commonFault? joint members = some f

theorem Prompt.failed (joint : Joint) (f : Fault) (rest : List Activity) :
    Prompt joint (.failed f :: rest) (.error f) := by
  cases joint <;> rfl

theorem Prompt.settled {joint : Joint} {rest : List Activity} {r : Except Fault (List Outcome)}
    (h : Prompt joint rest r) (os : List Outcome) :
    Prompt joint (.settled os :: rest) ((os ++ ·) <$> r) := by
  have hc : commonFault? joint (.settled os :: rest) = commonFault? joint rest := by
    cases joint <;> rfl
  cases r with
  | ok outs => exact ⟨hc.trans h.1, by rw [outcomes?, h.2]; rfl⟩
  | error f => exact hc.trans h

mutual
/-- An activity that takes no jump in time never waits. -/
theorem Follows.of_within : {a : Activity} → {t : Traced (List Outcome)} → Within a 0 → Follows P Late a t →
    Follows P False a t
  | .settled _, _, _, .settled outs => .settled outs
  | .failed _, _, _, .failed f => .failed f
  | .telling _ _, _, hw, .telling he h => by
    simp only [Within] at hw
    exact .telling he (.of_within hw h)
  | .waiting _ _, _, hw, .waiting _ _ => by
    obtain ⟨m, hm, -⟩ := hw
    omega
  | .sequel _ _, _, hw, .sequel h hk => by
    obtain ⟨k, m, hn, hf, hs⟩ := hw
    obtain ⟨rfl, rfl⟩ : k = 0 ∧ m = 0 := by omega
    exact .sequel (.of_within hf h) fun now outs ho => .of_within (hs now outs) (hk now outs ho)
  | .joined _ _, _, hw, .joined h => by
    simp only [Within] at hw
    exact .joined (.of_within hw h)

theorem FollowsAll.of_within : {members : List Activity} → {t : Traced (List Outcome)} →
    WithinAll members 0 → FollowsAll P Late members t → FollowsAll P False members t
  | [], _, _, .nil => .nil
  | _ :: _, _, hw, .cons h hr => by
    obtain ⟨k, m, hn, hf, hs⟩ := hw
    obtain ⟨rfl, rfl⟩ : k = 0 ∧ m = 0 := by omega
    exact .cons (.of_within hf h) (.of_within hs hr)
end

mutual
/-- **An activity that never waits is done after one pass**, with the calls of its trace in their order. -/
theorem prompt_advance (hL : ¬ Late) (now : Nat) : (a : Activity) → {t : Traced (List Outcome)} →
    Follows P Late a t →
      callsIn (advance now a).1 = t.calls ∧ (advance now a).2.result? = some t.result
  | .settled outs, _, .settled _ => ⟨rfl, rfl⟩
  | .failed f, _, .failed _ => ⟨rfl, rfl⟩
  | .telling e rest, _, .telling _ h => by
    obtain ⟨hc, hr⟩ := prompt_advance hL now rest h
    simp only [advance, callsIn_cons, hc]
    exact ⟨rfl, hr⟩
  | .waiting .., _, .waiting hl _ => absurd hl hL
  | .sequel first next, _, .sequel (t := t) (k := k) h hk => by
    obtain ⟨hc, hr⟩ := prompt_advance hL now first h
    simp only [advance]
    split
    · rename_i events outs heq
      rw [heq] at hc hr
      have ht : t.result = .ok outs := (Option.some.inj hr).symm
      obtain ⟨hc', hr'⟩ := prompt_advance hL now (next now outs) (hk now outs ht)
      rw [bind_of_ok ht, callsIn_append, hc', hc]
      exact ⟨rfl, hr'⟩
    · rename_i events f heq
      rw [heq] at hc hr
      have ht : t.result = .error f := (Option.some.inj hr).symm
      rw [bind_of_error ht]
      exact ⟨hc, rfl⟩
    · rename_i events first' hs hf heq
      rw [heq] at hr
      cases first' with
      | settled outs => exact absurd rfl (hs outs)
      | failed f => exact absurd rfl (hf f)
      | _ => simp [result?] at hr
  | .joined joint members, t, .joined h => by
    obtain ⟨hc, hp⟩ := prompt_advanceAll hL now joint members h
    refine ⟨hc, ?_⟩
    simp only [advance, Activity.rejoined]
    cases ht : t.result with
    | ok outs =>
      rw [ht] at hp
      rw [hp.1, hp.2]
      rfl
    | error f =>
      rw [ht] at hp
      rw [show commonFault? joint _ = some f from hp]
      rfl

/-- So are members that never wait: the pass ends at the first one that fails. -/
theorem prompt_advanceAll (hL : ¬ Late) (now : Nat) (joint : Joint) : (members : List Activity) →
    {t : Traced (List Outcome)} → FollowsAll P Late members t →
      callsIn (advanceAll now joint true members).1 = t.calls ∧
        Prompt joint (advanceAll now joint true members).2 t.result
  | [], _, .nil => by
    refine ⟨rfl, ?_, rfl⟩
    cases joint <;> rfl
  | m :: rest, _, .cons (t := t) (u := u) h hr => by
    obtain ⟨hc, hm⟩ := prompt_advance hL now m h
    simp only [advanceAll]
    cases ht : t.result with
    | error f =>
      rw [ht] at hm
      rw [eq_failed hm, beside_of_error ht]
      cases joint <;> exact ⟨hc, .failed _ f rest⟩
    | ok os =>
      rw [ht] at hm
      obtain ⟨hc', hp⟩ := prompt_advanceAll hL now joint rest hr
      rw [eq_settled hm, beside_of_ok ht]
      refine ⟨?_, by rw [told, result_map]; exact hp.settled os⟩
      change callsIn ((advance now m).1 ++ (advanceAll now joint true rest).1) = t.calls ++ _
      rw [callsIn_append, hc, hc', calls_map]
end

/-- A run ends with the first pass that leaves a result. -/
theorem run_of_result {now : Nat} {a : Activity} {r : Except Fault (List Outcome)} (waits : Nat)
    (h : (advance now a).2.result? = some r) : run waits now a = ((advance now a).1, some ⟨now, r⟩) := by
  cases waits with
  | zero => simp only [run, h, Option.map_some]
  | succ waits => simp only [run, h, Option.map_some]

end GatedFormula.Activity
