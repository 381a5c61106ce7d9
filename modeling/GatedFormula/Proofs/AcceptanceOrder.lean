/-
  How the verdict of a positional signature changes with the arguments and with the signature.
  - `Signature.accepts_iff_acceptsAt`: arguments are accepted if they are enough and each one is right at its
    position.
  - `Signature.Loosens`: a signature lets pass more than another one.
  Main statement: `accepts_kept`.
-/
import GatedFormula.Proofs.Acceptance

namespace GatedFormula

namespace Signature

/-- A signature has the same types as another one, accepts nested calls and unknown values where that does, and
requires no more arguments. -/
structure Loosens (t s : Signature) : Prop where
  args : t.args = s.args
  calls : s.acceptsCalls → t.acceptsCalls
  unknown : s.acceptsUnknown → t.acceptsUnknown
  required : t.requiredCount ≤ s.requiredCount

variable {s t : Signature} {types : List ArgType} {args : List Descriptor}

theorem acceptsFrom_of_acceptsAt {i : Nat}
    (h : ∀ (j : Nat) (d : Descriptor) (type : ArgType), args[j]? = some d → types[j]? = some type →
      s.acceptsAt (i + j) d type) : s.acceptsFrom i args types := by
  induction args generalizing i types with
  | nil => simp [acceptsFrom]
  | cons d args ih =>
    obtain _ | ⟨type, types⟩ := types
    · simp [acceptsFrom]
    rw [acceptsFrom, Bool.and_eq_true]
    refine ⟨h 0 d type rfl rfl, ih fun j d' type' hd ht => ?_⟩
    rw [Nat.succ_add_eq_add_succ]
    exact h (j + 1) d' type' hd ht

/-- **Arguments are accepted if they are enough and each one is right at its position.** -/
theorem accepts_iff_acceptsAt (hs : s.args = .positional types) :
    s.accepts args ↔ s.requiredCount ≤ args.length ∧
      ∀ (i : Nat) (d : Descriptor) (type : ArgType), args[i]? = some d → types[i]? = some type →
        s.acceptsAt i d type := by
  constructor
  · intro h
    refine ⟨required_of_accepts hs h, fun i d type hd ht => ?_⟩
    rw [accepts, hs, Bool.and_eq_true] at h
    have hat := acceptsAt_of_acceptsFrom h.2 hd ht
    rwa [Nat.zero_add] at hat
  · rintro ⟨hreq, hat⟩
    rw [accepts, hs, Bool.and_eq_true]
    refine ⟨decide_eq_true hreq, acceptsFrom_of_acceptsAt fun j d type hd ht => ?_⟩
    rw [Nat.zero_add]
    exact hat j d type hd ht

/-- An explicitly missing argument is right beyond the required ones. -/
theorem acceptsAt_undefined {i : Nat} {type : ArgType} (h : s.requiredCount ≤ i) :
    s.acceptsAt i (.value .undefined) type := by
  rw [acceptsAt, decide_eq_true h, Bool.true_or]

/-- What is right for a signature is right for a looser one. -/
theorem Loosens.acceptsAt (h : t.Loosens s) {i : Nat} {d : Descriptor} {type : ArgType}
    (hd : s.acceptsAt i d type) : t.acceptsAt i d type := by
  unfold Signature.acceptsAt at hd ⊢
  split at hd
  · rw [Bool.or_eq_true, decide_eq_true_eq] at hd ⊢
    exact hd.imp_left (Nat.le_trans h.required)
  · exact h.calls hd
  · exact h.unknown hd
  · exact hd

theorem accepts_of_first (hs : s.args = .positional types) {first : List Descriptor} (hp : first <+: args)
    (hlen : s.requiredCount ≤ first.length) (h : s.accepts args) : s.accepts first := by
  obtain ⟨-, hat⟩ := (accepts_iff_acceptsAt hs).1 h
  obtain ⟨rest, rfl⟩ := hp
  refine (accepts_iff_acceptsAt hs).2 ⟨hlen, fun i d type hd ht => hat i d type ?_ ht⟩
  exact List.getElem?_append_left (List.getElem?_eq_some_iff.1 hd).1 ▸ hd

/-- Arguments beyond all positions do not matter. -/
theorem accepts_append (hs : s.args = .positional types) (hlen : types.length ≤ args.length)
    (hreq : s.requiredCount ≤ args.length) (more : List Descriptor) :
    s.accepts (args ++ more) = s.accepts args := by
  rw [Bool.eq_iff_iff]
  refine ⟨accepts_of_first hs (List.prefix_append args more) hreq, fun h => ?_⟩
  obtain ⟨-, hat⟩ := (accepts_iff_acceptsAt hs).1 h
  refine (accepts_iff_acceptsAt hs).2 ⟨?_, fun i d type hd ht => hat i d type ?_ ht⟩
  · rw [List.length_append]
    exact Nat.le_add_right_of_le hreq
  · have hi : i < types.length := (List.getElem?_eq_some_iff.1 ht).1
    rwa [List.getElem?_append_left (Nat.lt_of_lt_of_le hi hlen)] at hd

theorem Loosens.accepts (h : t.Loosens s) (hs : s.args = .positional types) (ha : s.accepts args) :
    t.accepts args := by
  obtain ⟨hreq, hat⟩ := (accepts_iff_acceptsAt hs).1 ha
  refine (accepts_iff_acceptsAt (h.args.trans hs)).2 ⟨Nat.le_trans h.required hreq, fun i d type hd ht => ?_⟩
  exact h.acceptsAt (hat i d type hd ht)

theorem accepts_set_undefined (hs : s.args = .positional types) {i : Nat} (hi : s.requiredCount ≤ i)
    (h : s.accepts args) : s.accepts (args.set i (.value .undefined)) := by
  obtain ⟨hreq, hat⟩ := (accepts_iff_acceptsAt hs).1 h
  refine (accepts_iff_acceptsAt hs).2 ⟨by rwa [List.length_set], fun j d type hd ht => ?_⟩
  rw [List.getElem?_set] at hd
  by_cases hij : i = j
  · subst hij
    rw [if_pos rfl] at hd
    split at hd
    · obtain rfl := Option.some.inj hd
      exact acceptsAt_undefined hi
    · cases hd
  · rw [if_neg hij] at hd
    exact hat j d type hd ht

end Signature

/-- **What stays accepted.** Of accepted arguments, the first ones are accepted as long as they are enough. Beyond
all positions and all required arguments, more arguments change nothing. A signature that is looser, in that it
accepts nested calls or unknown values or requires less, still accepts them. And beyond the required ones, any of
them may be explicitly missing instead. -/
theorem accepts_kept {s : Signature} {types : List ArgType} (hs : s.args = .positional types)
    (args : List Descriptor) :
    (∀ first : List Descriptor, first <+: args → s.requiredCount ≤ first.length → s.accepts args →
      s.accepts first) ∧
    (types.length ≤ args.length → s.requiredCount ≤ args.length →
      ∀ more : List Descriptor, s.accepts (args ++ more) = s.accepts args) ∧
    (∀ t : Signature, t.Loosens s → s.accepts args → t.accepts args) ∧
    (∀ i, s.requiredCount ≤ i → s.accepts args → s.accepts (args.set i (.value .undefined))) := by
  refine ⟨fun first hp hlen => Signature.accepts_of_first hs hp hlen, Signature.accepts_append hs, ?_, ?_⟩
  · intro t ht
    exact ht.accepts hs
  · intro i hi
    exact Signature.accepts_set_undefined hs hi

/-- A number and two texts that may be left out: the number alone will do, and so will a number, nothing and a text,
or an unknown value after all three. -/
theorem accepts_kept_optional :
    let types : List ArgType := [.number, .text, .text]
    let s : Signature := { args := .positional types, required := some 1 }
    let t : Signature := { s with acceptsCalls := true, acceptsUnknown := true, required := some 0 }
    let args : List Descriptor := [.value (.number 1), .value (.text "a"), .value (.text "b")]
    s.accepts args ∧ s.accepts [.value (.number 1)] ∧ s.accepts (args ++ [.unknown]) ∧
      (t.Loosens s ∧ t.accepts args) ∧
      s.accepts [.value (.number 1), .value .undefined, .value (.text "b")] := by
  intro types s t args
  have hs : s.args = .positional types := rfl
  have ha : s.accepts args := rfl
  have ht : t.Loosens s := ⟨rfl, fun _ => rfl, fun _ => rfl, Nat.zero_le 1⟩
  obtain ⟨hfirst, hmore, hloose, hset⟩ := accepts_kept hs args
  refine ⟨ha, ?_, ?_, ⟨ht, hloose t ht ha⟩, hset 1 (by decide) ha⟩
  · exact hfirst _ ⟨[.value (.text "a"), .value (.text "b")], rfl⟩ (by decide) ha
  · rw [hmore (by decide) (by decide) [.unknown]]
    exact ha

end GatedFormula
