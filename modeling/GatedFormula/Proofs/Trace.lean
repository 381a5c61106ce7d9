/-
  Traces of plain evaluation, put together and compared.
  - Traces are a lawful monad; `Traced.told` puts calls before those of a trace.
  - `Traced.beside` takes the outcomes of two traces together.
  - `Traced.Agrees`: two traces have the same value by the same calls in some order, or both fail.
-/
import GatedFormula.Evaluation.Sequence

namespace GatedFormula.Traced

variable {α β : Type}

/-- A trace after other calls. -/
def told (cs : List Invocation) (t : Traced α) : Traced α := ⟨cs ++ t.calls, t.result⟩

/-- Two traces one after the other, with the outcomes of both. -/
def beside (t u : Traced (List Outcome)) : Traced (List Outcome) := do
  let os ← t
  let os' ← u
  pure (os ++ os')

/-! ## Laws -/

theorem told_told (cs ds : List Invocation) (t : Traced α) :
    (t.told ds).told cs = t.told (cs ++ ds) := by
  simp only [told, List.append_assoc]

theorem bind_of_ok {t : Traced α} {a : α} (h : t.result = .ok a) (k : α → Traced β) :
    (t >>= k) = (k a).told t.calls := by
  obtain ⟨cs, r⟩ := t
  obtain rfl : r = .ok a := h
  rfl

theorem bind_of_error {t : Traced α} {f : Fault} (h : t.result = .error f) (k : α → Traced β) :
    (t >>= k) = ⟨t.calls, .error f⟩ := by
  obtain ⟨cs, r⟩ := t
  obtain rfl : r = .error f := h
  rfl

theorem told_bind (cs : List Invocation) (t : Traced α) (k : α → Traced β) :
    (t.told cs >>= k) = (t >>= k).told cs := by
  cases h : t.result with
  | ok a =>
    rw [bind_of_ok h, bind_of_ok (t := t.told cs) h, told_told]
    rfl
  | error f =>
    rw [bind_of_error h, bind_of_error (t := t.told cs) h]
    rfl

instance : LawfulMonad Traced := by
  refine LawfulMonad.mk' Traced (fun t => ?_) (fun _ _ => rfl) fun t k l => ?_
  · change (t >>= fun a => pure a) = t
    cases h : t.result with
    | ok a =>
      rw [bind_of_ok h]
      simp only [told, Pure.pure, ofResult, List.append_nil, ← h]
    | error f => rw [bind_of_error h, ← h]
  · cases h : t.result with
    | ok a => rw [bind_of_ok h, bind_of_ok h, told_bind]
    | error f =>
      rw [bind_of_error h, bind_of_error h]
      rfl

@[simp] theorem calls_map (g : α → β) (t : Traced α) : (g <$> t).calls = t.calls := by
  rw [map_eq_pure_bind]
  cases h : t.result with
  | ok a => rw [bind_of_ok h]; exact List.append_nil _
  | error f => rw [bind_of_error h]

@[simp] theorem result_map (g : α → β) (t : Traced α) : (g <$> t).result = g <$> t.result := by
  rw [map_eq_pure_bind]
  cases h : t.result with
  | ok a => rw [bind_of_ok h]; rfl
  | error f => rw [bind_of_error h]; rfl

theorem map_eq (g : α → β) (t : Traced α) : g <$> t = ⟨t.calls, g <$> t.result⟩ := by
  rw [← result_map, ← calls_map g]

theorem told_beside (cs : List Invocation) (t u : Traced (List Outcome)) :
    (t.told cs).beside u = (t.beside u).told cs := told_bind cs t _

theorem beside_of_ok {t : Traced (List Outcome)} {os : List Outcome} (h : t.result = .ok os)
    (u : Traced (List Outcome)) : t.beside u = ((os ++ ·) <$> u).told t.calls := by
  rw [beside, bind_of_ok h, map_eq_pure_bind]

theorem beside_of_error {t : Traced (List Outcome)} {f : Fault} (h : t.result = .error f)
    (u : Traced (List Outcome)) : t.beside u = ⟨t.calls, .error f⟩ := bind_of_error h _

/-- What succeeds in the end has succeeded before. -/
theorem ok_of_bind {t : Traced α} {k : α → Traced β} {b : β} (h : (t >>= k).result = .ok b) :
    ∃ a, t.result = .ok a ∧ (k a).result = .ok b := by
  cases ht : t.result with
  | ok a => rw [bind_of_ok ht] at h; exact ⟨a, rfl, h⟩
  | error f => rw [bind_of_error ht] at h; cases h

/-- Outcomes of two traces together are those of the first and those of the second. -/
theorem ok_of_beside {t u : Traced (List Outcome)} {outs : List Outcome}
    (h : (t.beside u).result = .ok outs) :
    ∃ os os', t.result = .ok os ∧ u.result = .ok os' ∧ outs = os ++ os' := by
  obtain ⟨os, ht, h⟩ := ok_of_bind h
  obtain ⟨os', hu, h⟩ := ok_of_bind h
  obtain rfl := Except.ok.inj h
  exact ⟨os, os', ht, hu, rfl⟩

/-! ## Agreement -/

/-- The same value by the same calls in some order, or two failures. -/
inductive Agrees : Traced α → Traced α → Prop
  | ok (a : α) {cs ds : List Invocation} (h : cs.Perm ds) : Agrees ⟨cs, .ok a⟩ ⟨ds, .ok a⟩
  | error (cs ds : List Invocation) (f g : Fault) : Agrees ⟨cs, .error f⟩ ⟨ds, .error g⟩

namespace Agrees

variable {t u v : Traced α}

theorem refl : (t : Traced α) → t.Agrees t
  | ⟨_, .ok a⟩ => .ok a (.refl _)
  | ⟨_, .error _⟩ => .error ..

theorem trans (h : t.Agrees u) (h' : u.Agrees v) : t.Agrees v := by
  cases h with
  | ok a h =>
    cases h' with
    | ok _ h' => exact .ok a (h.trans h')
  | error =>
    cases h' with
    | error => exact .error ..

/-- Traces that agree have the same successes. -/
theorem ok_iff {a : α} (h : t.Agrees u) : t.result = .ok a ↔ u.result = .ok a := by
  cases h with
  | ok => exact Iff.rfl
  | error => constructor <;> intro h <;> cases h

theorem perm {a : α} (h : t.Agrees u) (ht : t.result = .ok a) : t.calls.Perm u.calls := by
  cases h with
  | ok _ h => exact h
  | error => cases ht

theorem exists_error {f : Fault} (h : t.Agrees u) (ht : t.result = .error f) :
    ∃ g, u.result = .error g := by
  cases h with
  | ok => cases ht
  | error => exact ⟨_, rfl⟩

theorem of_errors {f g : Fault} (ht : t.result = .error f) (hu : u.result = .error g) :
    t.Agrees u := by
  obtain ⟨cs, r⟩ := t
  obtain ⟨ds, q⟩ := u
  obtain rfl : r = .error f := ht
  obtain rfl : q = .error g := hu
  exact .error ..

theorem told {cs ds : List Invocation} (hc : cs.Perm ds) (h : t.Agrees u) :
    (t.told cs).Agrees (u.told ds) := by
  cases h with
  | ok a h => exact .ok a (hc.append h)
  | error => exact .error ..

theorem bind {k l : α → Traced β} (h : t.Agrees u) (hk : ∀ a, u.result = .ok a → (k a).Agrees (l a)) :
    (t >>= k).Agrees (u >>= l) := by
  cases h with
  | ok a h => exact told h (hk a rfl)
  | error => exact .error ..

theorem map (g : α → β) (h : t.Agrees u) : (g <$> t).Agrees (g <$> u) := by
  rw [map_eq_pure_bind, map_eq_pure_bind]
  exact h.bind fun _ _ => refl _

theorem beside {t t' u u' : Traced (List Outcome)} (h : t.Agrees t') (h' : u.Agrees u') :
    (t.beside u).Agrees (t'.beside u') :=
  h.bind fun _ _ => h'.bind fun _ _ => refl _

/-- Calls made before the second of two traces count as made before both. -/
theorem beside_told (ds : List Invocation) (t u : Traced (List Outcome)) :
    (t.beside (u.told ds)).Agrees ((t.beside u).told ds) := by
  cases h : t.result with
  | ok os =>
    have hm : ((os ++ ·) <$> u.told ds) = ((os ++ ·) <$> u).told ds := told_bind ds u _
    rw [beside_of_ok h, beside_of_ok h, hm, told_told, told_told]
    exact told List.perm_append_comm (refl _)
  | error f =>
    rw [beside_of_error h, beside_of_error h]
    exact .error ..

end Agrees

end GatedFormula.Traced
