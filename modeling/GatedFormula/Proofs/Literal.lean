/-
  Texts as patterns.
  - A text with a backslash before every character that has a meaning reads back as the expression `Regex.ofChars` of
    its characters: `Regex.ofSource?_escaped`.
  - `Pattern.exists_literal_iff`: only the length of a text decides whether there is a pattern for it.
  - `Program.IsLiteral` says which steps a program takes for a text, `isLiteral_ofRegex` that the compiled ones are
    these.
-/
import GatedFormula.Pattern.Basic
import Mathlib.Data.Nat.Notation
import Mathlib.Logic.Basic

namespace GatedFormula

/-! ## Reading -/

/-- The regular expression of one character. -/
def Regex.ofChar (c : Char) : Regex := .one (.single c)

namespace Reader

variable {c : Char} {rest : List Char} {p : Progress}

theorem charItem_plain (c : Char) : charItem {} c = Regex.ofChar c := rfl

/-- A character without a meaning is read as itself. -/
theorem step?_of_not_hasMeaning (hm : p.modes = {}) (hc : hasMeaning c = false) :
    step? p c rest = some (p.push (.ofChar c) rest) := by
  have hne : ∀ d, hasMeaning d = true → c ≠ d := by
    rintro d hd rfl
    rw [hd] at hc
    cases hc
  rw [step?]
  simp only [hm, hne '(' rfl, hne ')' rfl, hne '|' rfl, hne '[' rfl, hne '?' rfl, hne '*' rfl, hne '+' rfl,
    hne '\x7b' rfl, hne '.' rfl, hne '^' rfl, hne '$' rfl, hne '\\' rfl, if_false, charItem_plain]

theorem escape?_of_hasMeaning (m : Modes) (rest : List Char) (hc : hasMeaning c = true) :
    escape? m (c :: rest) = some (.char c, rest) := by
  simp only [hasMeaning, List.contains_iff_mem, List.mem_cons, List.not_mem_nil, or_false] at hc
  rcases hc with rfl | rfl | rfl | rfl | rfl | rfl | rfl | rfl | rfl | rfl | rfl | rfl | rfl | rfl | rfl | rfl | rfl |
    rfl <;> rfl

/-- A character with a meaning is read as itself after a backslash. -/
theorem step?_of_hasMeaning (hm : p.modes = {}) (hc : hasMeaning c = true) :
    step? p '\\' (c :: rest) = some (p.push (.ofChar c) rest) := by
  simp [step?, escape?_of_hasMeaning _ rest hc, hm, charItem_plain]

/-- Reading goes on after an item. -/
theorem toEnd?_cons (hm : p.modes = {}) {c : Char} {after : Progress} (hr : p.rest = c :: rest)
    (hs : step? p c rest = some after) (hlt : after.rest.length < p.rest.length) : toEnd? p = toEnd? after := by
  rw [toEnd?]
  have hn : next p.modes p.rest = c :: rest := by rw [hm, hr]; rfl
  rw [hn]
  simp only [hs, Option.bind_eq_bind, Option.bind_some, dif_pos hlt]

/-- One character after the other is read as itself. -/
theorem toEnd?_escaped (s : List Char) (hm : p.modes = {}) (hr : p.rest = Pattern.escaped s) (hg : p.groups = []) :
    toEnd? p = some (choice p.branches ((s.map Regex.ofChar).reverse ++ p.parts), p.names) := by
  induction s generalizing p with
  | nil =>
    rw [toEnd?]
    have hn : next p.modes p.rest = [] := by rw [hm, hr]; rfl
    rw [hn]
    simp [hg]
  | cons c s ih =>
    have hread : toEnd? p = toEnd? (p.push (.ofChar c) (Pattern.escaped s)) := by
      by_cases hc : hasMeaning c = true
      · have hr' : p.rest = '\\' :: c :: Pattern.escaped s := by rw [hr]; simp [Pattern.escaped, hc]
        refine toEnd?_cons hm hr' (step?_of_hasMeaning hm hc) ?_
        simp only [hr', Progress.push, List.length_cons]
        omega
      · have hr' : p.rest = c :: Pattern.escaped s := by rw [hr]; simp [Pattern.escaped, hc]
        exact toEnd?_cons hm hr' (step?_of_not_hasMeaning hm (by simpa using hc)) (by simp [hr', Progress.push])
    rw [hread, ih (p := p.push (.ofChar c) (Pattern.escaped s)) hm rfl hg]
    simp [Progress.push]

end Reader

namespace Regex

/-- The regular expression of a text that stands for itself. -/
def ofChars : List Char → Regex
  | [] => .empty
  | [c] => .ofChar c
  | c :: d :: rest => .concat ((c :: d :: rest).map .ofChar)

theorem choice_ofChars (s : List Char) : Reader.choice [] ((s.map ofChar).reverse ++ []) = ofChars s := by
  rw [List.append_nil, Reader.choice, Reader.sequence, List.reverse_reverse]
  rcases s with _ | ⟨c, _ | ⟨d, s⟩⟩ <;> rfl

theorem depthMax_map_ofChar (s : List Char) : depthMax (s.map ofChar) = 0 := by
  induction s with
  | nil => rfl
  | cons c s ih => rw [List.map_cons, depthMax, ih]; rfl

theorem depth_ofChars_le (s : List Char) : depth (ofChars s) ≤ depthLimit := by
  rcases s with _ | ⟨c, _ | ⟨d, s⟩⟩
  · exact Nat.zero_le _
  · exact Nat.zero_le _
  · rw [ofChars, depth, depthMax_map_ofChar]
    decide

theorem simplifiedAll_map_ofChar (s : List Char) : simplifiedAll (s.map ofChar) = s.map ofChar := by
  induction s with
  | nil => rfl
  | cons c s ih => rw [List.map_cons, simplifiedAll, ih]; rfl

theorem simplified_ofChars (s : List Char) : simplified (ofChars s) = ofChars s := by
  rcases s with _ | ⟨c, _ | ⟨d, s⟩⟩
  · rfl
  · rfl
  · rw [ofChars, simplified, simplifiedAll_map_ofChar]

/-- The source that stands for a text as it is reads back as the text, if it is not too long. -/
theorem ofSource?_escaped (s : List Char) :
    ofSource? {} (Pattern.escaped s) = if (ofChars s).cost ≤ costLimit then some (ofChars s, []) else none := by
  have hread : Reader.toEnd? ⟨Pattern.escaped s, {}, [], [], [], 0, []⟩ = some (ofChars s, []) := by
    rw [Reader.toEnd?_escaped s rfl rfl rfl, choice_ofChars]
  have hguard {a : Prop} [Decidable a] (ha : a) : (guard a : Option Unit) = some () := if_pos ha
  have hstop {a : Prop} [Decidable a] (ha : ¬ a) : (guard a : Option Unit) = none := if_neg ha
  rw [ofSource?, hread, Option.bind_eq_bind, Option.bind_some]
  dsimp only
  rw [hguard (depth_ofChars_le s), simplified_ofChars]
  by_cases hc : (ofChars s).cost ≤ costLimit
  · rw [hguard hc, if_pos hc]
    rfl
  · rw [hstop hc, if_neg hc]
    rfl

/-- A character costs 32 for each byte of its encoding. -/
theorem costSum_map_ofChar (s : List Char) : costSum (s.map ofChar) = 32 * (String.ofList s).utf8ByteSize := by
  induction s with
  | nil => rfl
  | cons c s ih =>
    have hsize : (String.ofList (c :: s)).utf8ByteSize = c.utf8Size + (String.ofList s).utf8ByteSize := by
      rw [← List.singleton_append, String.ofList_append, String.utf8ByteSize_append, ← String.singleton_eq_ofList,
        String.utf8ByteSize_singleton]
    have hcost : cost (ofChar c) = 32 * c.utf8Size := by
      simp [ofChar, cost, setCost, CharSet.single]
    rw [List.map_cons, costSum, ih, hcost, hsize, Nat.mul_add]

end Regex

theorem Pattern.literal_eq_ok_iff {s : String} {q : Pattern} : literal s = .ok q ↔
    (Regex.ofChars s.toList).cost ≤ Regex.costLimit ∧
      q = ⟨String.ofList (escaped s.toList), "", Program.ofRegex (.ofChars s.toList), []⟩ := by
  have hflags : Flags.fault? "".toList = none := rfl
  have hmodes : modesOf "".toList = {} := rfl
  rw [literal, make, hflags, hmodes]
  simp only [String.toList_ofList, Regex.ofSource?_escaped]
  by_cases hc : (Regex.ofChars s.toList).cost ≤ Regex.costLimit
  · rw [if_pos hc, and_iff_right hc]
    exact ⟨fun h => (Except.ok.inj h).symm, fun h => h ▸ rfl⟩
  · rw [if_neg hc]
    exact ⟨nofun, fun h => absurd h.1 hc⟩

/-- There is a pattern for every text of up to 320 KiB. -/
theorem Pattern.exists_literal_iff {s : String} : (∃ q, literal s = .ok q) ↔ s.utf8ByteSize ≤ 320 * 1024 := by
  simp only [literal_eq_ok_iff, exists_and_left, exists_eq, and_true]
  have hlimit : Regex.costLimit = 32 * (320 * 1024) := rfl
  obtain ⟨cs, rfl⟩ : ∃ cs, s = String.ofList cs := ⟨s.toList, by simp⟩
  rw [String.toList_ofList, hlimit]
  rcases cs with _ | ⟨c, _ | ⟨d, cs⟩⟩
  · simp [Regex.ofChars, Regex.cost]
  · have h := Regex.costSum_map_ofChar [c]
    rw [List.map_singleton, Regex.costSum, Regex.costSum, Nat.add_zero] at h
    rw [Regex.ofChars, h]
    omega
  · rw [Regex.ofChars, Regex.cost, Regex.costSum_map_ofChar]
    omega

/-! ## Compiling -/

namespace Program

/-- A program that matches a text as it stands: the step of number `n + 1` is the one at which `n` characters are left
to take. -/
structure IsLiteral (P : Program) (p : List Char) : Prop where
  accept : P.steps[0]? = some .accept
  stop : P.steps[1]? = some (.note 1 0)
  take : ∀ c rest, (c :: rest) <:+ p → P.steps[rest.length + 2]? = some (.take (.single c) (rest.length + 1))
  note : P.steps[p.length + 2]? = some (.note 0 (p.length + 1))
  start : P.start = p.length + 2
  size : P.steps.size = p.length + 3
  slots : P.slots = 2

/-- Compiling characters adds one step for each. -/
theorem compileAll_map_ofChar (p : List Char) (next : ℕ) (steps : Array Step) (hn : steps.size = next + 1) :
    (compileAll (p.map Regex.ofChar) next steps).1 = next + p.length ∧
    (compileAll (p.map Regex.ofChar) next steps).2.size = steps.size + p.length ∧
    (∀ i < steps.size, (compileAll (p.map Regex.ofChar) next steps).2[i]? = steps[i]?) ∧
    ∀ c rest, (c :: rest) <:+ p →
      (compileAll (p.map Regex.ofChar) next steps).2[next + rest.length + 1]? =
        some (.take (.single c) (next + rest.length)) := by
  induction p with
  | nil => simp [compileAll]
  | cons d p ih =>
    obtain ⟨hentry, hsize, hkeep, htake⟩ := ih
    rw [List.map_cons, compileAll]
    generalize compileAll (p.map Regex.ofChar) next steps = r at *
    obtain ⟨entry, steps'⟩ := r
    simp only [compile, Regex.ofChar, emit] at hentry hsize hkeep htake ⊢
    refine ⟨by rw [hsize, hn, List.length_cons]; omega, by rw [Array.size_push, hsize, List.length_cons]; omega,
      fun i hi => ?_, fun c rest h => ?_⟩
    · rw [Array.getElem?_push_lt (by omega), ← hkeep i hi, Array.getElem?_eq_getElem (by omega)]
    · rcases List.suffix_cons_iff.1 h with h | h
      · obtain ⟨rfl, rfl⟩ := List.cons.inj h
        have hlast : next + rest.length + 1 = steps'.size := by omega
        rw [hlast, Array.getElem?_push_size, hentry]
      · have hlt := h.length_le
        rw [List.length_cons] at hlt
        rw [Array.getElem?_push_lt (by omega), ← htake c rest h, Array.getElem?_eq_getElem (by omega)]

theorem compile_ofChars (p : List Char) (next : ℕ) (steps : Array Step) :
    compile (.ofChars p) next steps = compileAll (p.map Regex.ofChar) next steps := by
  rcases p with _ | ⟨c, _ | ⟨d, p⟩⟩ <;> rfl

theorem lastCapture_ofChars (p : List Char) : Regex.lastCapture (.ofChars p) = 0 := by
  have hall (s : List Char) : Regex.lastCaptureOf (s.map Regex.ofChar) = 0 := by
    induction s with
    | nil => rfl
    | cons c s ih => rw [List.map_cons, Regex.lastCaptureOf, ih]; rfl
  rcases p with _ | ⟨c, _ | ⟨d, p⟩⟩
  · rfl
  · rfl
  · exact hall _

/-- **The program of a text matches it as it stands.** -/
theorem isLiteral_ofRegex (p : List Char) : (ofRegex (.ofChars p)).IsLiteral p := by
  obtain ⟨hentry, hsize, hkeep, htake⟩ :=
    compileAll_map_ofChar p 1 #[.accept, .note 1 0] rfl
  have hsteps : (ofRegex (.ofChars p)).steps =
      (compileAll (p.map Regex.ofChar) 1 #[.accept, .note 1 0]).2.push
        (.note 0 (compileAll (p.map Regex.ofChar) 1 #[.accept, .note 1 0]).1) := by
    rw [← compile_ofChars]
    rfl
  have hstart : (ofRegex (.ofChars p)).start =
      (compileAll (p.map Regex.ofChar) 1 #[.accept, .note 1 0]).2.size := by
    rw [← compile_ofChars]
    rfl
  have hslots : (ofRegex (.ofChars p)).slots = 2 * (Regex.lastCapture (.ofChars p) + 1) := rfl
  have hlen : (compileAll (p.map Regex.ofChar) 1 #[.accept, .note 1 0]).2.size = p.length + 2 := by
    rw [hsize, Nat.add_comm]
    rfl
  generalize compileAll (p.map Regex.ofChar) 1 #[.accept, .note 1 0] = r at *
  have hlow {i : ℕ} (hi : i < p.length + 2) : (ofRegex (.ofChars p)).steps[i]? = r.2[i]? := by
    rw [hsteps, Array.getElem?_push_lt (by omega), Array.getElem?_eq_getElem (by omega)]
  constructor
  · rw [hlow (by omega), hkeep 0 (by decide)]
    rfl
  · rw [hlow (by omega), hkeep 1 (by decide)]
    rfl
  · intro c rest h
    have hlt := h.length_le
    rw [List.length_cons] at hlt
    have hat : rest.length + 2 = 1 + rest.length + 1 := by omega
    rw [hlow (by omega), hat, htake c rest h, Nat.add_comm]
  · rw [hsteps, ← hlen, Array.getElem?_push_size, hentry, Nat.add_comm]
  · rw [hstart, hlen]
  · rw [hsteps, Array.size_push, hlen]
  · rw [hslots, lastCapture_ofChars]

end Program
end GatedFormula
