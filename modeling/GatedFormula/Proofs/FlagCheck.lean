/-
  Which flags a pattern takes, and which one is blamed.
  - `Flags.Accepted`: all flags are known and none comes twice. Exactly these have no fault (`fault?_eq_none_iff`).
  - `Flags.Offends`: the flag at a position is unknown, or is among those before it. The fault of flags is that of the
    first offence (`exists_firstOffence`).
  Main statement: `flags_checked`.
-/
import GatedFormula.Pattern.Basic
import Mathlib.Data.List.Perm.Subperm

namespace GatedFormula

namespace Flags

/-- The letters of the flags. -/
def letters : List Char := "dgimsuvy".toList

theorem known_eq : known = letters := rfl

/-- All flags are known, and none comes twice. -/
def Accepted (flags : List Char) : Prop := (∀ c ∈ flags, c ∈ letters) ∧ flags.Nodup

-- goes through the flags, not through all characters
instance (flags : List Char) : Decidable (Accepted flags) :=
  @instDecidableAnd _ _ (List.decidableBAll (· ∈ letters) flags) flags.nodupDecidable

/-- The flag at a position is unknown, or is among those before it. -/
def Offends (flags : List Char) (i : ℕ) (c : Char) : Prop :=
  flags[i]? = some c ∧ (c ∉ letters ∨ c ∈ flags.take i)

/-- The flag at a position offends, and none before it does. -/
def IsFirstOffence (flags : List Char) (i : ℕ) (c : Char) : Prop :=
  Offends flags i c ∧ ∀ j < i, ∀ d, ¬ Offends flags j d

/-- What an offending flag is blamed for. -/
def blame (c : Char) : PatternFault := if c ∈ letters then .repeatedFlag c else .unknownFlag c

variable {flags before rest seen : List Char} {c : Char} {fault : PatternFault}

/-- There are no more flags than letters. -/
theorem Accepted.length_le (h : Accepted flags) : flags.length ≤ 8 :=
  (List.subperm_of_subset h.2 h.1).length_le

theorem faultAfter?_eq_none_iff :
    faultAfter? seen flags = none ↔ Accepted flags ∧ ∀ c ∈ flags, c ∉ seen := by
  induction flags generalizing seen with
  | nil => simp [faultAfter?, Accepted]
  | cons c rest ih =>
    rw [faultAfter?, known_eq]
    by_cases hc : c ∈ letters
    · rw [if_neg (not_not.2 hc)]
      by_cases hs : c ∈ seen
      · rw [if_pos hs]
        exact iff_of_false nofun fun h => h.2 c List.mem_cons_self hs
      · rw [if_neg hs, ih]
        simp only [Accepted, List.mem_cons, forall_eq_or_imp, List.nodup_cons, not_or]
        constructor
        · rintro ⟨⟨hk, hn⟩, hr⟩
          exact ⟨⟨⟨hc, hk⟩, fun hm => (hr c hm).1 rfl, hn⟩, hs, fun d hd => (hr d hd).2⟩
        · rintro ⟨⟨⟨-, hk⟩, hm, hn⟩, -, hr⟩
          exact ⟨⟨hk, hn⟩, fun d hd => ⟨fun he => hm (he ▸ hd), hr d hd⟩⟩
    · rw [if_pos hc]
      exact iff_of_false nofun fun h => hc (h.1.1 c List.mem_cons_self)

/-- **Exactly the accepted flags have no fault.** -/
theorem fault?_eq_none_iff : fault? flags = none ↔ Accepted flags := by
  rw [fault?, faultAfter?_eq_none_iff, and_iff_left fun _ _ => List.not_mem_nil]

/-- There is only one first offence. -/
theorem IsFirstOffence.unique {i j : ℕ} {d : Char} (h : IsFirstOffence flags i c) (h' : IsFirstOffence flags j d) :
    i = j ∧ c = d := by
  obtain rfl : i = j := by
    rcases Nat.lt_trichotomy i j with hij | rfl | hji
    · exact absurd h.1 (h'.2 i hij c)
    · rfl
    · exact absurd h'.1 (h.2 j hji d)
  exact ⟨rfl, Option.some.inj (h.1.1.symm.trans h'.1.1)⟩

/-- The flag behind some others offends if it is unknown or one of them. -/
theorem offends_append_iff : Offends (before ++ c :: rest) before.length c ↔ c ∉ letters ∨ c ∈ before := by
  simp [Offends]

/-- The fault found behind some flags is that of the first offence, if those before have none and are those seen. -/
theorem exists_firstOffence_append (before : List Char) (hseen : ∀ c, c ∈ seen ↔ c ∈ before)
    (hbefore : ∀ j < before.length, ∀ d, ¬ Offends (before ++ rest) j d) (h : faultAfter? seen rest = some fault) :
    ∃ i c, IsFirstOffence (before ++ rest) i c ∧ fault = blame c := by
  induction rest generalizing before seen with
  | nil => cases h
  | cons c rest ih =>
    rw [faultAfter?, known_eq] at h
    by_cases hc : c ∈ letters
    · rw [if_neg (not_not.2 hc)] at h
      by_cases hs : c ∈ seen
      · rw [if_pos hs] at h
        refine ⟨before.length, c, ⟨offends_append_iff.2 (.inr ((hseen c).1 hs)), hbefore⟩, ?_⟩
        rw [blame, if_pos hc]
        exact (Option.some.inj h).symm
      · -- the flag passes, and is one more of those before and of those seen
        rw [if_neg hs] at h
        have happ : before ++ c :: rest = (before ++ [c]) ++ rest := by simp
        rw [happ] at hbefore ⊢
        refine ih _ (fun d => ?_) (fun j hj d hd => ?_) h
        · rw [List.mem_cons, List.mem_append, List.mem_singleton, hseen d, or_comm]
        · rw [List.length_append, List.length_singleton] at hj
          rcases Nat.lt_succ_iff_lt_or_eq.1 hj with hj | rfl
          · exact hbefore j hj d hd
          · rw [← happ] at hd
            have hdc : c = d := by simpa [Offends] using hd.1
            subst hdc
            rcases offends_append_iff.1 hd with hu | hm
            · exact hu hc
            · exact hs ((hseen c).2 hm)
    · rw [if_pos hc] at h
      refine ⟨before.length, c, ⟨offends_append_iff.2 (.inl hc), hbefore⟩, ?_⟩
      rw [blame, if_neg hc]
      exact (Option.some.inj h).symm

/-- **The fault of flags is that of the first offence.** -/
theorem exists_firstOffence (h : fault? flags = some fault) : ∃ i c, IsFirstOffence flags i c ∧ fault = blame c :=
  exists_firstOffence_append [] (fun _ => Iff.rfl) nofun h

end Flags

namespace Pattern

variable {source flags : String}

open Flags

/-- The source does not matter for flags with a fault. -/
theorem make_of_fault {fault : PatternFault} (h : fault? flags.toList = some fault) (source : String) :
    make source flags = .error fault := by
  rw [make, h]

/-- With accepted flags, only the source decides. -/
theorem make_of_accepted (h : Accepted flags.toList) (source : String) :
    make source flags = .error .malformed ∨ ∃ p, make source flags = .ok p ∧ p.source = source ∧ p.flags = flags := by
  rw [make, fault?_eq_none_iff.2 h]
  cases Regex.ofSource? (modesOf flags.toList) source.toList with
  | none => exact .inl rfl
  | some r => exact .inr ⟨_, rfl, rfl, rfl⟩

theorem ofSource?_nil (flags : List Char) : Regex.ofSource? (modesOf flags) [] = some (.empty, []) := by
  have hread : Reader.toEnd? ⟨[], modesOf flags, [], [], [], 0, []⟩ = some (.empty, []) := by
    rw [Reader.toEnd?]
    rfl
  rw [Regex.ofSource?, hread]
  rfl

/-- The empty source makes a pattern. -/
theorem exists_make_empty (h : Accepted flags.toList) : ∃ p, make "" flags = .ok p := by
  rw [make, fault?_eq_none_iff.2 h, String.toList_empty, ofSource?_nil]
  exact ⟨_, rfl⟩

theorem isGlobal_iff (p : Pattern) : p.isGlobal ↔ 'g' ∈ p.flags.toList := List.contains_iff_mem

end Pattern

/-- **A pattern takes the flags that are known and come once.** With such flags, of which there are at most eight, only
the source decides whether there is a pattern. It keeps the flags as they are given, and works on every match if `g` is
among them. All other flags fail at the first one that is unknown or has come before, whatever the source. -/
theorem flags_checked (flags : String) :
    ((∃ source p, Pattern.make source flags = .ok p) ↔ Flags.Accepted flags.toList) ∧
    (Flags.Accepted flags.toList → flags.length ≤ 8 ∧ ∀ source, Pattern.make source flags = .error .malformed ∨
      ∃ p, Pattern.make source flags = .ok p ∧ p.flags = flags ∧ (p.isGlobal ↔ 'g' ∈ flags.toList)) ∧
    (¬ Flags.Accepted flags.toList → ∃ i c, Flags.IsFirstOffence flags.toList i c ∧ ∀ source,
      Pattern.make source flags =
        .error (if c ∈ "dgimsuvy".toList then .repeatedFlag c else .unknownFlag c)) := by
  refine ⟨⟨?_, fun h => ⟨"", Pattern.exists_make_empty h⟩⟩, fun h => ⟨?_, fun source => ?_⟩, fun h => ?_⟩
  · rintro ⟨source, p, hp⟩
    refine Flags.fault?_eq_none_iff.1 (Option.eq_none_iff_forall_ne_some.2 fun fault hf => ?_)
    cases (Pattern.make_of_fault hf source).symm.trans hp
  · rw [← String.length_toList]
    exact h.length_le
  · refine (Pattern.make_of_accepted h source).imp_right ?_
    rintro ⟨p, hp, -, hflags⟩
    exact ⟨p, hp, hflags, hflags ▸ p.isGlobal_iff⟩
  · obtain ⟨fault, hf⟩ := Option.ne_none_iff_exists'.1 (mt Flags.fault?_eq_none_iff.1 h)
    obtain ⟨i, c, hfirst, rfl⟩ := Flags.exists_firstOffence hf
    exact ⟨i, c, hfirst, fun source => Pattern.make_of_fault hf source⟩

/-- `gi` passes. In `gig` the second `g` is the first offence, and in `gqg` it is the unknown letter. -/
theorem flags_checked_gig :
    (Flags.Accepted "gi".toList ∧ "gi".length ≤ 8 ∧ ∃ source p, Pattern.make source "gi" = .ok p) ∧
    (¬ Flags.Accepted "gig".toList ∧ Flags.IsFirstOffence "gig".toList 2 'g' ∧
      ∀ source, Pattern.make source "gig" = .error (.repeatedFlag 'g')) ∧
    (¬ Flags.Accepted "gqg".toList ∧ Flags.IsFirstOffence "gqg".toList 1 'q' ∧
      ∀ source, Pattern.make source "gqg" = .error (.unknownFlag 'q')) := by
  have hgi : Flags.Accepted "gi".toList := by decide
  have hgig : ¬ Flags.Accepted "gig".toList := by decide
  have hgqg : ¬ Flags.Accepted "gqg".toList := by decide
  have hsecond : Flags.IsFirstOffence "gig".toList 2 'g' := by
    refine ⟨⟨rfl, .inr (by decide)⟩, ?_⟩
    rintro (_ | _ | j) hj d ⟨hd, ho⟩
    · obtain rfl : 'g' = d := Option.some.inj hd
      revert ho
      decide
    · obtain rfl : 'i' = d := Option.some.inj hd
      revert ho
      decide
    · omega
  have hunknown : Flags.IsFirstOffence "gqg".toList 1 'q' := by
    refine ⟨⟨rfl, .inl (by decide)⟩, ?_⟩
    rintro (_ | j) hj d ⟨hd, ho⟩
    · obtain rfl : 'g' = d := Option.some.inj hd
      revert ho
      decide
    · omega
  obtain ⟨i, c, hi, hgig'⟩ := (flags_checked "gig").2.2 hgig
  obtain ⟨j, d, hj, hgqg'⟩ := (flags_checked "gqg").2.2 hgqg
  obtain ⟨rfl, rfl⟩ := hi.unique hsecond
  obtain ⟨rfl, rfl⟩ := hj.unique hunknown
  exact ⟨⟨hgi, ((flags_checked "gi").2.1 hgi).1, (flags_checked "gi").1.2 hgi⟩, ⟨hgig, hsecond, hgig'⟩,
    hgqg, hunknown, hgqg'⟩

end GatedFormula
