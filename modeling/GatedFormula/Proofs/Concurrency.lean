/-
  Evaluation side by side gives what plain evaluation gives.
  Whatever time the functions of the host take, the value, the counts and the calls made are those of the
  evaluation from left to right, or both evaluations fail. If they take no time, the fault and the order of
  the calls are the same as well.
-/
import GatedFormula.Proofs.Launch

namespace GatedFormula

/-- The same setting with other times of the host's functions. -/
def Setting.delayed (s : Setting) (delay : Place → Nat) : Setting :=
  { s with host := { s.host with delay := delay } }

variable (s : Setting) (delay : Place → Nat)

theorem Setting.not_slow_delayed (h : ∀ id, delay id = 0) : ¬ (s.delayed delay).Slow := by
  rintro ⟨f, hf⟩
  cases f with
  | host id name => exact hf (h id)
  | method m => exact hf rfl
  | standard id f => exact hf rfl

namespace Formula

mutual
/-- Plain evaluation knows no time. -/
theorem inTurn_delayed : (f : Formula) → (p : Place) → inTurn (s.delayed delay) f p = inTurn s f p
  | .array elements, p => by rw [inTurn, inTurnEach_delayed elements]; rfl
  | .binary op l r, p => by rw [inTurn, inTurn_delayed l, inTurn_delayed r]; rfl
  | .call callee arguments, p => by
    rw [inTurn_call, inTurn_delayed callee, inTurnEach_delayed arguments]; rfl
  | .sequence body, p => inTurnLast_delayed body p 0 0
  | .conditional t c a, p => by
    rw [inTurn, inTurn_delayed t, inTurn_delayed c, inTurn_delayed a]; rfl
  | .name n, p => rfl
  | .literal .., p => rfl
  | .logical op l r, p => by rw [inTurn, inTurn_delayed l, inTurn_delayed r]; rfl
  | .member object property computed, p => by
    rw [inTurn, inTurn_delayed object, inTurn_delayed property]; rfl
  | .self, p => rfl
  | .unary op a _, p => by rw [inTurn, inTurn_delayed a]; rfl

theorem inTurnEach_delayed : (fs : List Formula) → (p : Place) → (i : Nat) →
    inTurnEach (s.delayed delay) fs p i = inTurnEach s fs p i
  | [], _, _ => rfl
  | f :: rest, p, i => by
    rw [inTurnEach_cons, inTurn_delayed f, inTurnEach_delayed rest, ← inTurnEach_cons]

theorem inTurnLast_delayed : (fs : List Formula) → (p : Place) → (i calls : Nat) →
    inTurnLast (s.delayed delay) fs p i calls = inTurnLast s fs p i calls
  | [], _, _, _ => rfl
  | [f], p, i, calls => by rw [inTurnLast, inTurn_delayed f]; rfl
  | f :: g :: rest, p, i, calls => by
    rw [inTurnLast_cons, inTurn_delayed f, inTurnLast_cons]
    exact bind_congr fun o => inTurnLast_delayed (g :: rest) p (i + 1) _
end

end Formula

theorem evaluate_delayed_agrees (f : Formula) (origin : Place) : (f.inTurn s origin).Agrees
    ⟨(evaluate (s.delayed delay) f origin).invocations, (evaluate (s.delayed delay) f origin).result⟩ := by
  rw [← f.inTurn_delayed s delay]
  exact evaluate_agrees _ f origin

/-- **Times never change a success.** For any two assignments of times to the functions of the host, both
evaluations have the value and the counts of plain evaluation from left to right, with the same calls in some
order, or all three fail. Without any time, the fault and the order of the calls are those of plain
evaluation too. -/
theorem evaluate_eq_inTurn (s : Setting) (delay delay' : Place → Nat) (f : Formula) (origin : Place) :
    ((∃ o, (evaluate (s.delayed delay) f origin).result = .ok o ∧
          (evaluate (s.delayed delay') f origin).result = .ok o ∧ (f.inTurn s origin).result = .ok o ∧
          (evaluate (s.delayed delay) f origin).invocations.Perm (f.inTurn s origin).calls ∧
          (evaluate (s.delayed delay') f origin).invocations.Perm (f.inTurn s origin).calls) ∨
        ∃ g g' g'', (evaluate (s.delayed delay) f origin).result = .error g ∧
          (evaluate (s.delayed delay') f origin).result = .error g' ∧
          (f.inTurn s origin).result = .error g'') ∧
      ((∀ id, delay id = 0) →
        (evaluate (s.delayed delay) f origin).result = (f.inTurn s origin).result ∧
          (evaluate (s.delayed delay) f origin).invocations = (f.inTurn s origin).calls) := by
  constructor
  · have h := evaluate_delayed_agrees s delay f origin
    have h' := evaluate_delayed_agrees s delay' f origin
    cases hr : (f.inTurn s origin).result with
    | ok o =>
      exact .inl ⟨o, h.ok_iff.1 hr, h'.ok_iff.1 hr, rfl, (h.perm hr).symm, (h'.perm hr).symm⟩
    | error g =>
      obtain ⟨g', hg'⟩ := h.exists_error hr
      obtain ⟨g'', hg''⟩ := h'.exists_error hr
      exact .inr ⟨g', g'', g, hg', hg'', rfl⟩
  · intro hd
    obtain ⟨hr, hc, -⟩ := evaluate_prompt (s.delayed delay) f origin (s.not_slow_delayed delay hd)
    rw [hr, hc, f.inTurn_delayed s delay]
    exact ⟨rfl, rfl⟩

/-- In `[box.echo(box.echo("a")), box.echo("b")]` the outer call waits for the inner one and comes last, where
plain evaluation has it second. -/
theorem evaluate_eq_inTurn_echo :
    let echo (f : Formula) : Formula := .call (.member (.name "box") (.name "echo") false) [f]
    let f : Formula := .array [echo (echo (.literal (.text "a") none)), echo (.literal (.text "b") none)]
    let s := Setting.sample
    (∃ o, (evaluate (s.delayed fun _ => 3) f (.root 3)).result = .ok o ∧
      (evaluate (s.delayed fun _ => 0) f (.root 3)).result = .ok o ∧ o.calls = 3 ∧
      (evaluate (s.delayed fun _ => 3) f (.root 3)).invocations.Perm (f.inTurn s (.root 3)).calls) ∧
    ((evaluate (s.delayed fun _ => 3) f (.root 3)).invocations.map Invocation.arguments =
      [[.text "a"], [.text "b"], [.text "a"]]) ∧
    (evaluate (s.delayed fun _ => 0) f (.root 3)).invocations = (f.inTurn s (.root 3)).calls := by
  intro echo f s
  obtain ⟨h, -⟩ := evaluate_eq_inTurn s (fun _ => 3) (fun _ => 0) f (.root 3)
  obtain ⟨-, hp⟩ := evaluate_eq_inTurn s (fun _ => 0) (fun _ => 0) f (.root 3)
  refine ⟨?_, rfl, (hp fun _ => rfl).2⟩
  rcases h with ⟨o, hr, hr', -, hc, -⟩ | ⟨g, -, -, hg, -⟩
  · refine ⟨o, hr, hr', ?_, hc⟩
    cases hr
    rfl
  · cases hg

end GatedFormula
