/-
  Activities that replay one another.
  - `Activity.Replays` relates two activities that tell, wait and end alike. What they go on with has to be alike
    only for the outcomes that can come.
  - A pass at any instant keeps two activities replaying each other and tells the same in both
    (`replays_advance`), so their runs are the same (`replays_run`).
  - A run that has a result stays the same with more jumps (`run_of_isSome`), so evaluations that replay each
    other are the same, even of formulas with other numbers of calls (`evaluate_of_replays`).
-/
import GatedFormula.Proofs.Launch

namespace GatedFormula

/-- The outcome of a trace, if it succeeds. -/
def Traced.outcome? {α : Type} (t : Traced α) : Option α := t.result.toOption

namespace Traced

variable {α β : Type}

theorem outcome?_eq_some {t : Traced α} {a : α} : t.outcome? = some a ↔ t.result = .ok a := by
  cases h : t.result <;> simp [outcome?, h, Except.toOption]

theorem outcome?_bind (t : Traced α) (k : α → Traced β) :
    (t >>= k).outcome? = t.outcome?.bind fun a => (k a).outcome? := by
  cases h : t.result with
  | ok a => rw [bind_of_ok h, outcome?_eq_some.2 h]; rfl
  | error f => rw [bind_of_error h]; simp [outcome?, h, Except.toOption]

theorem outcome?_beside (t u : Traced (List Outcome)) :
    (t.beside u).outcome? = t.outcome?.bind fun outs => u.outcome?.map (outs ++ ·) := by
  rw [beside, outcome?_bind]
  congr 1
  funext outs
  rw [outcome?_bind, Option.map_eq_bind]
  rfl

end Traced

namespace Activity

open Traced

mutual
/-- The two activities do the same up to the same outcomes, or fail in the same way. -/
inductive Replays : Activity → Activity → Option (List Outcome) → Prop
  | settled (outs : List Outcome) : Replays (.settled outs) (.settled outs) (some outs)
  | failed (f : Fault) : Replays (.failed f) (.failed f) none
  | telling (e : Event) {a b : Activity} {o : Option (List Outcome)} (h : Replays a b o) :
      Replays (.telling e a) (.telling e b) o
  | waiting (due : Nat) {a b : Activity} {o : Option (List Outcome)} (h : Replays a b o) :
      Replays (.waiting due a) (.waiting due b) o
  | sequel {a b : Activity} {next next' : Nat → List Outcome → Activity} {o : Option (List Outcome)}
      {k : List Outcome → Option (List Outcome)} (h : Replays a b o)
      (hn : ∀ now outs, o = some outs → Replays (next now outs) (next' now outs) (k outs)) :
      Replays (.sequel a next) (.sequel b next') (o.bind k)
  | joined {joint : Joint} {as bs : List Activity} {o : Option (List Outcome)} (h : ReplaysAll as bs o) :
      Replays (.joined joint as) (.joined joint bs) o

/-- The members do the same, each up to its part of the outcomes. -/
inductive ReplaysAll : List Activity → List Activity → Option (List Outcome) → Prop
  | nil : ReplaysAll [] [] (some [])
  | cons {a b : Activity} {as bs : List Activity} {o o' : Option (List Outcome)} (h : Replays a b o)
      (hr : ReplaysAll as bs o') : ReplaysAll (a :: as) (b :: bs) (o.bind fun outs => o'.map (outs ++ ·))
end

variable {a b : Activity} {as bs : List Activity} {o : Option (List Outcome)}

/-! ## What they have in common -/

theorem Replays.fault?_eq (h : Replays a b o) : b.fault? = a.fault? := by
  cases h <;> rfl

theorem Replays.isSettled_eq (h : Replays a b o) : b.isSettled = a.isSettled := by
  cases h <;> rfl

theorem Replays.result?_eq (h : Replays a b o) : b.result? = a.result? := by
  cases h <;> rfl

theorem Replays.eq_none_of_fault (h : Replays a b o) (hf : a.fault?.isSome) : o = none := by
  cases h with
  | failed f => rfl
  | _ => cases hf

mutual
theorem Replays.nextDue?_eq : {a b : Activity} → {o : Option (List Outcome)} → Replays a b o →
    b.nextDue? = a.nextDue?
  | _, _, _, .settled _ => rfl
  | _, _, _, .failed _ => rfl
  | _, _, _, .telling _ h => h.nextDue?_eq
  | _, _, _, .waiting _ _ => rfl
  | _, _, _, .sequel h _ => h.nextDue?_eq
  | _, _, _, .joined h => h.nextDueAll?_eq

theorem ReplaysAll.nextDueAll?_eq : {as bs : List Activity} → {o : Option (List Outcome)} →
    ReplaysAll as bs o → nextDueAll? bs = nextDueAll? as
  | _, _, _, .nil => rfl
  | _, _, _, .cons h hr => by rw [nextDueAll?, h.nextDue?_eq, hr.nextDueAll?_eq, nextDueAll?]
end

theorem ReplaysAll.commonFault?_eq (h : ReplaysAll as bs o) (joint : Joint) :
    commonFault? joint bs = commonFault? joint as := by
  induction as generalizing bs o with
  | nil => cases h; rfl
  | cons a rest ih =>
    obtain _ | ⟨h, hr⟩ := h
    have ih := ih hr
    cases joint with
    | eager =>
      simp only [commonFault?, List.findSome?_cons, h.fault?_eq] at ih ⊢
      rw [ih]
    | inOrder =>
      simp only [commonFault?, List.find?_cons, h.isSettled_eq] at ih ⊢
      cases a.isSettled with
      | true => exact ih
      | false => exact h.fault?_eq

theorem ReplaysAll.eq_none_of_fault (h : ReplaysAll as bs o) {m : Activity} (hm : m ∈ as)
    (hf : m.fault?.isSome) : o = none := by
  induction as generalizing bs o with
  | nil => cases hm
  | cons a rest ih =>
    obtain _ | ⟨h, hr⟩ := h
    rename_i b bs o o'
    rcases List.mem_cons.1 hm with rfl | hm
    · rw [h.eq_none_of_fault hf]
      rfl
    · rw [ih hr hm]
      cases o <;> rfl

theorem ReplaysAll.outcomes?_eq (h : ReplaysAll as bs o) : outcomes? bs = outcomes? as ∧
    ∀ outs, outcomes? as = some outs → o = some outs := by
  induction as generalizing bs o with
  | nil =>
    cases h
    exact ⟨rfl, fun outs ho => ho⟩
  | cons a rest ih =>
    obtain _ | ⟨h, hr⟩ := h
    obtain ⟨he, ho⟩ := ih hr
    cases h with
    | settled os =>
      refine ⟨by rw [outcomes?, he, outcomes?], fun outs houts => ?_⟩
      rw [outcomes?, Option.map_eq_some_iff] at houts
      obtain ⟨os', hos, rfl⟩ := houts
      rw [ho os' hos]
      rfl
    | _ => exact ⟨rfl, fun _ ho => by cases ho⟩

theorem ReplaysAll.rejoined (h : ReplaysAll as bs o) (joint : Joint) :
    Replays (rejoined joint as) (Activity.rejoined joint bs) o := by
  obtain ⟨he, ho⟩ := h.outcomes?_eq
  rw [Activity.rejoined, Activity.rejoined, h.commonFault?_eq, he]
  cases hc : commonFault? joint as with
  | some f =>
    obtain ⟨m, hm, hf⟩ := exists_fault hc
    rw [h.eq_none_of_fault hm hf]
    exact .failed f
  | none =>
    cases hs : outcomes? as with
    | some outs =>
      rw [ho outs hs]
      exact .settled outs
    | none => exact .joined h

/-! ## Passes and runs -/

mutual
/-- **A pass keeps two activities replaying each other**, and the same happens in both. -/
theorem replays_advance (now : Nat) : (a : Activity) → {b : Activity} → {o : Option (List Outcome)} →
    Replays a b o → (advance now b).1 = (advance now a).1 ∧ Replays (advance now a).2 (advance now b).2 o
  | .settled _, _, _, .settled outs => ⟨rfl, .settled outs⟩
  | .failed _, _, _, .failed f => ⟨rfl, .failed f⟩
  | .telling e a, _, _, .telling _ h => by
    obtain ⟨he, hs⟩ := replays_advance now a h
    exact ⟨congrArg (e :: ·) he, hs⟩
  | .waiting due a, _, _, .waiting _ h => by
    simp only [advance]
    split
    · exact replays_advance now a h
    · exact ⟨rfl, .waiting due h⟩
  | .sequel a next, _, _, @Replays.sequel _ b _ _ o k h hn => by
    obtain ⟨he, hs⟩ := replays_advance now a h
    simp only [advance]
    generalize advance now a = x at he hs ⊢
    generalize advance now b = y at he hs ⊢
    obtain ⟨events, a'⟩ := x
    obtain ⟨events', b'⟩ := y
    obtain rfl : events' = events := he
    cases hs with
    | settled outs =>
      obtain ⟨he', hs'⟩ := replays_advance now (next now outs) (hn now outs rfl)
      exact ⟨congrArg (events' ++ ·) he', hs'⟩
    | failed f => exact ⟨rfl, .failed f⟩
    | telling e h' => exact ⟨rfl, .sequel (.telling e h') hn⟩
    | waiting due h' => exact ⟨rfl, .sequel (.waiting due h') hn⟩
    | sequel h' hn' => exact ⟨rfl, .sequel (.sequel h' hn') hn⟩
    | joined h' => exact ⟨rfl, .sequel (.joined h') hn⟩
  | .joined joint as, _, _, .joined h => by
    obtain ⟨he, hs⟩ := replays_advanceAll now joint as true h
    exact ⟨he, hs.rejoined joint⟩

theorem replays_advanceAll (now : Nat) (joint : Joint) : (as : List Activity) → (clear : Bool) →
    {bs : List Activity} → {o : Option (List Outcome)} → ReplaysAll as bs o →
      (advanceAll now joint clear bs).1 = (advanceAll now joint clear as).1 ∧
        ReplaysAll (advanceAll now joint clear as).2 (advanceAll now joint clear bs).2 o
  | [], _, _, _, .nil => ⟨rfl, .nil⟩
  | a :: as, clear, _, _, .cons h hr => by
    obtain ⟨he, hs⟩ := replays_advance now a h
    simp only [advanceAll, hs.fault?_eq, hs.isSettled_eq, he]
    split
    · exact ⟨rfl, .cons hs hr⟩
    · obtain ⟨her, hsr⟩ := replays_advanceAll now joint as (clear && (advance now a).2.isSettled) hr
      exact ⟨by rw [her], .cons hs hsr⟩
end

/-- **Runs that replay each other are the same.** -/
theorem replays_run {waits now : Nat} (h : Replays a b o) : run waits now b = run waits now a := by
  induction waits generalizing now a b with
  | zero =>
    obtain ⟨he, hs⟩ := replays_advance now a h
    simp only [run, he, hs.result?_eq]
  | succ waits ih =>
    obtain ⟨he, hs⟩ := replays_advance now a h
    simp only [run, he, hs.result?_eq, hs.nextDue?_eq, ih hs]

theorem run_of_due {now due : Nat} (waits : Nat) (hr : (advance now a).2.result? = none)
    (hd : (advance now a).2.nextDue? = some due) : run (waits + 1) now a =
      ((advance now a).1 ++ (run waits due (advance now a).2).1, (run waits due (advance now a).2).2) := by
  simp only [run, hr, hd]

/-- A run that has a result needs no more jumps. -/
theorem run_succ_of_isSome {waits now : Nat} (h : (run waits now a).2.isSome) :
    run (waits + 1) now a = run waits now a := by
  induction waits generalizing now a with
  | zero =>
    rw [run, Option.isSome_map] at h
    obtain ⟨r, hr⟩ := Option.isSome_iff_exists.1 h
    rw [run_of_result _ hr, run_of_result _ hr]
  | succ waits ih =>
    cases hr : (advance now a).2.result? with
    | some r => rw [run_of_result _ hr, run_of_result _ hr]
    | none =>
      cases hd : (advance now a).2.nextDue? with
      | none => simp only [run, hr, hd]
      | some due =>
        rw [run_of_due _ hr hd] at h ⊢
        rw [run_of_due _ hr hd, ih h]

theorem run_add_of_isSome {waits now : Nat} (h : (run waits now a).2.isSome) (more : Nat) :
    run (waits + more) now a = run waits now a := by
  induction more with
  | zero => rfl
  | succ more ih =>
    rw [← Nat.add_assoc, run_succ_of_isSome (by rw [ih]; exact h), ih]

/-- **Runs that have a result are the same**, whatever jumps they may take. -/
theorem run_of_isSome {waits waits' now : Nat} (h : (run waits now a).2.isSome)
    (h' : (run waits' now a).2.isSome) : run waits' now a = run waits now a := by
  rcases Nat.le_total waits waits' with hw | hw
  · obtain ⟨more, rfl⟩ := Nat.exists_eq_add_of_le hw
    exact run_add_of_isSome h more
  · obtain ⟨more, rfl⟩ := Nat.exists_eq_add_of_le hw
    exact (run_add_of_isSome h' more).symm

/-! ## Activities put together -/

mutual
/-- An activity that follows a trace replays itself, up to the outcome of the trace. -/
theorem Follows.replays {P : Event → Prop} {Late : Prop} : {a : Activity} → {t : Traced (List Outcome)} →
    Follows P Late a t → Replays a a t.outcome?
  | _, _, .settled outs => .settled outs
  | _, _, .failed f => .failed f
  | _, _, .telling _ h => .telling _ h.replays
  | _, _, .waiting _ h => .waiting _ h.replays
  | _, _, .sequel h hk => by
    rw [outcome?_bind]
    exact .sequel h.replays fun now outs ho => (hk now outs (outcome?_eq_some.1 ho)).replays
  | _, _, .joined h => .joined h.replaysAll

theorem FollowsAll.replaysAll {P : Event → Prop} {Late : Prop} : {as : List Activity} →
    {t : Traced (List Outcome)} → FollowsAll P Late as t → ReplaysAll as as t.outcome?
  | _, _, .nil => .nil
  | _, _, .cons (t := t) (u := u) h hr => by
    rw [outcome?_beside]
    exact .cons h.replays hr.replaysAll
end

theorem replays_ofResult (r : Except Fault Outcome) :
    Replays (ofResult r) (ofResult r) (Traced.ofResult r).single.outcome? := by
  cases r with
  | ok x => exact .settled [x]
  | error f => exact .failed f

theorem replays_reading (s : Setting) (object key : Outcome) :
    Replays (reading s object key) (reading s object key)
      (Traced.ofResult ((s.read object.value key.value).map fun v => .node v [object, key])).single.outcome? :=
  (@follows_reading (fun _ => True) True s (fun _ => trivial) object key).replays

theorem replays_calling (s : Setting) (site : Place) (x : Outcome) (outs : List Outcome) (now : Nat) :
    Replays (calling s site now (x :: outs)) (calling s site now (x :: outs))
      (Formula.callInTurn s site x outs).single.outcome? :=
  (follows_calling (P := fun _ => True) (fun _ _ => trivial) (fun _ _ _ => trivial) now).replays

theorem Replays.after {first first' : Activity} {next next' : Outcome → Activity} {t : Traced Outcome}
    {k : Outcome → Traced Outcome} (h : Replays first first' t.single.outcome?)
    (hk : ∀ x, t.result = .ok x → Replays (next x) (next' x) (k x).single.outcome?) :
    Replays (after first next) (after first' next') (t >>= k).single.outcome? := by
  rw [single_bind, outcome?_bind]
  refine .sequel h fun _ outs ho => ?_
  obtain ⟨x, hx, rfl⟩ := ok_of_single (outcome?_eq_some.1 ho)
  exact hk x hx

theorem Replays.both {l l' r r' : Activity} {next next' : Outcome → Outcome → Activity} {t u : Traced Outcome}
    {k : Outcome → Outcome → Traced Outcome} (hl : Replays l l' t.single.outcome?)
    (hr : Replays r r' u.single.outcome?)
    (hk : ∀ x y, t.result = .ok x → u.result = .ok y → Replays (next x y) (next' x y) (k x y).single.outcome?) :
    Replays (both l r next) (both l' r' next') (t >>= fun x => u >>= fun y => k x y).single.outcome? := by
  have hj : ReplaysAll [l, r] [l', r'] (t.single.beside (u.single.beside (pure []))).outcome? := by
    rw [outcome?_beside, outcome?_beside]
    exact .cons hl (.cons hr .nil)
  rw [single_bind_bind, outcome?_bind]
  refine .sequel (.joined hj) fun _ outs ho => ?_
  obtain ⟨x, y, hx, hy, rfl⟩ := ok_of_pair (outcome?_eq_some.1 ho)
  exact hk x y hx hy

end Activity

open Activity

/-- Evaluations with the same run are the same. -/
theorem evaluate_congr {s s' : Setting} {f f' : Formula} {origin : Place} (hk : f'.kind = f.kind)
    (h : (f'.launch s' origin).run f'.callCount 0 = (f.launch s origin).run f.callCount 0) :
    evaluate s' f' origin = evaluate s f origin := by
  simp only [evaluate, h, hk]

/-- **Evaluations that replay each other are the same**, with all that happens on the way. -/
theorem evaluate_of_replays {s s' : Setting} {f f' : Formula} {origin : Place} {o : Option (List Outcome)}
    (hk : f'.kind = f.kind) (h : Replays (f.launch s origin) (f'.launch s' origin) o) :
    evaluate s' f' origin = evaluate s f origin := by
  have hs : (run f'.callCount 0 (f'.launch s' origin)).2.isSome := run_isSome (f'.within_launch s' origin)
  rw [replays_run h] at hs
  exact evaluate_congr hk ((replays_run h).trans (run_of_isSome (run_isSome (f.within_launch s origin)) hs))

end GatedFormula
