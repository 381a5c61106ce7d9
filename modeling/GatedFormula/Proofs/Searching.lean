/-
  The methods that search a text agree with each other and count characters.
  - `Value.Marks` says which place in a text a number marks, or a missing value.
  - `Pattern.first?_of_literal`: the pattern of a text is found where the text stands first.
  Main statement: `searches_agree`.
-/
import GatedFormula.Method.Text
import GatedFormula.Proofs.Bytes
import GatedFormula.Proofs.Denotation
import GatedFormula.Proofs.LiteralRun

namespace GatedFormula

/-! ## Places that values mark -/

/-- The place that a value marks in a text of a length: a number the whole part of it, or the nearest place that the
text has, and a missing value the default. -/
inductive Value.Marks (length default : ℕ) : Value → ℕ → Prop
  | missing : Marks length default .undefined default
  | finite {x : Float} {q : ℚ} (h : Number.value? x = some q) : Marks length default (.number x) (min ⌊q⌋₊ length)
  | infinite {x : Float} {negative : Bool} (h : Exact.of x = .infinite negative) :
      Marks length default (.number x) (if negative then 0 else length)
  | nan {x : Float} (h : Exact.of x = .nan) : Marks length default (.number x) 0

variable {length default k : ℕ} {v : Value} {args : List Value}

/-- A place that is marked is one of the text. -/
theorem Value.Marks.le (h : v.Marks length default k) (hd : default ≤ length) : k ≤ length := by
  cases h with
  | missing => exact hd
  | finite h => exact min_le_right _ _
  | infinite h => split <;> simp
  | nan h => exact Nat.zero_le _

/-- Every number marks a place. -/
theorem Value.exists_marks_number (length default : ℕ) (x : Float) :
    ∃ k ≤ length, (Value.number x).Marks length default k := by
  cases hx : Exact.of x with
  | nan => exact ⟨0, Nat.zero_le _, .nan hx⟩
  | infinite negative =>
    refine ⟨if negative then 0 else length, ?_, .infinite hx⟩
    split
    · exact Nat.zero_le _
    · exact le_rfl
  | finite negative m e =>
    obtain ⟨q, hq⟩ : ∃ q, Number.value? x = some q := ⟨_, by rw [Number.value?, hx]; rfl⟩
    exact ⟨_, min_le_right _ _, .finite hq⟩

/-- Where an argument marks a place, it is read as a position of that place. -/
theorem Value.Marks.position (h : v.Marks length default k) (hd : default ≤ length) :
    ∃ pos : Position, pos.clamped length = k ∧ ∀ function args i, Argument.get args i = v →
      Argument.position function args i (.index default) = .ok pos := by
  cases h with
  | missing =>
    refine ⟨.index default, min_eq_left hd, fun function args i hv => ?_⟩
    rw [Argument.position, hv]
  | finite h =>
    refine ⟨_, Position.clamped_of_value? h length, fun function args i hv => ?_⟩
    rw [Argument.position, hv]
  | @infinite x negative h =>
    refine ⟨Position.ofNumber x, ?_, fun function args i hv => ?_⟩
    · rw [Position.ofNumber, h]
      cases negative <;> rfl
    · rw [Argument.position, hv]
  | @nan x h =>
    refine ⟨Position.ofNumber x, ?_, fun function args i hv => ?_⟩
    · rw [Position.ofNumber, h]
      exact Nat.zero_min _
    · rw [Argument.position, hv]

/-! ## Searching -/

/-- **The pattern of a text is found where the text stands first.** -/
theorem Pattern.first?_of_literal {p : String} {q : Pattern} (h : literal p = .ok q) (s : List Char) :
    q.first? s = (Text.first? p.toList s).map (Program.literalMatch p.toList) := by
  obtain ⟨-, rfl⟩ := literal_eq_ok_iff.1 h
  rw [first?, Program.find?_literal (Program.isLiteral_ofRegex _) (Nat.zero_le _), Text.firstFrom?_zero]

namespace TextMethod

/-- Only the value of a place that is not there is minus one. -/
theorem same_ofPlace_none (found : Option ℕ) : (ofPlace found).same (ofPlace none) = found.isNone := by
  cases found with
  | none => decide
  | some k => exact Number.beq_minusOne k

variable {s p : String} {site : Place}

/-- The methods that search from a place on. -/
theorem invoke_from (h : (Argument.get args 0).Marks s.length 0 k) (site : Place) :
    invoke .indexOf (some (.text s)) (.text p :: args) site =
        .ok (ofPlace (Text.firstFrom? p.toList s.toList k)) ∧
      invoke .includes (some (.text s)) (.text p :: args) site =
        .ok (.boolean (Text.firstFrom? p.toList s.toList k).isSome) ∧
      invoke .startsWith (some (.text s)) (.text p :: args) site =
        .ok (.boolean (Text.startsWith p.toList (s.toList.drop k))) := by
  have hk : k ≤ s.toList.length := by
    rw [String.length_toList]
    exact h.le (Nat.zero_le _)
  obtain ⟨pos, rfl, hpos⟩ := h.position (Nat.zero_le _)
  have hread (function : String) : Argument.position function (.text p :: args) 1 (.index 0) = .ok pos :=
    hpos _ _ _ rfl
  rw [← Text.indexFrom?_eq hk, ← Text.includesFrom_eq, ← Text.startsAt_eq, ← String.length_toList]
  simp only [invoke, apply, hread]
  exact ⟨rfl, rfl, rfl⟩

/-- Ending is looked at in the part before the place. -/
theorem invoke_endsWith (h : (Argument.get args 0).Marks s.length s.length k) :
    invoke .endsWith (some (.text s)) (.text p :: args) site =
      .ok (.boolean (p.toList.isSuffixOf (s.toList.take k))) := by
  rw [← String.length_toList] at h
  obtain ⟨pos, rfl, hpos⟩ := h.position le_rfl
  have hread : Argument.position "endsWith" (.text p :: args) 1 (.index s.toList.length) = .ok pos := hpos _ _ _ rfl
  rw [← Text.ends_eq, invoke, apply]
  simp only [name, hread]
  rfl

theorem invoke_lastIndexOf :
    invoke .lastIndexOf (some (.text s)) (.text p :: args) site = .ok (ofPlace (Text.last? p.toList s.toList)) := by
  rw [← Text.lastIndex?_eq]
  rfl

/-- A text to look for is looked for by its pattern. -/
theorem needle_of_literal {q : Pattern} (hq : Pattern.literal p = .ok q) (function : String) (args : List Value) :
    Argument.needle function (.text p :: args) 0 = .ok ⟨q, true⟩ := by
  have hget : Argument.get (.text p :: args) 0 = .text p := rfl
  simp only [Argument.needle, hget, hq]

/-- A search for a text needs a pattern for it; then it looks for the text from the start. -/
theorem invoke_search {q : Pattern} (hq : Pattern.literal p = .ok q) :
    invoke .search (some (.text s)) (.text p :: args) site = .ok (ofPlace (Text.first? p.toList s.toList)) := by
  have hstart : (q.first? s.toList).map Match.start = Text.first? p.toList s.toList := by
    rw [Pattern.first?_of_literal hq, Option.map_map]
    exact Option.map_id'
  rw [invoke, apply]
  simp only [needle_of_literal hq]
  exact congrArg (fun found => Except.ok (ofPlace found)) hstart

end TextMethod

/-- **The searches agree with each other and count characters.** Looking from a place on finds the first place from
there where a text stands, or gives minus one if there is none; a text is included if that is not minus one. It starts
where it stands at the place itself, and ends where it stands so that the place comes next. Looking from the end finds
the last place of all. Where there is a pattern for a text, it is found where the text is. -/
theorem searches_agree (s p : String) (site : Place) :
    let run (m : TextMethod) (args : List Value) := m.invoke (some (.text s)) (.text p :: args) site
    let occurs := Text.OccursAt p.toList s.toList
    let minusOne := Value.number (Number.ofWhole (-1))
    (∀ default x, ∃ k ≤ s.length, (Value.number x).Marks s.length default k) ∧
    (∀ args k, (Argument.get args 0).Marks s.length 0 k → ∃ found,
      Text.IsFirst {i | k ≤ i ∧ occurs i} found ∧ run .indexOf args = .ok (TextMethod.ofPlace found) ∧
      run .includes args = .ok (.boolean !(TextMethod.ofPlace found).same minusOne)) ∧
    (∀ args k, (Argument.get args 0).Marks s.length 0 k → ∃ b : Bool,
      run .startsWith args = .ok (.boolean b) ∧ (b ↔ occurs k)) ∧
    (∀ args k, (Argument.get args 0).Marks s.length s.length k → ∃ b : Bool,
      run .endsWith args = .ok (.boolean b) ∧ (b ↔ ∃ i, occurs i ∧ i + p.length = k)) ∧
    (∀ args, ∃ found, Text.IsLast {i | occurs i} found ∧ run .lastIndexOf args = .ok (TextMethod.ofPlace found)) ∧
    (∀ args, (∃ q, Pattern.literal p = .ok q) → run .search args = run .indexOf []) := by
  intro run occurs minusOne
  have hle {v : Value} {default k : ℕ} (h : v.Marks s.length default k) (hd : default ≤ s.length) :
      k ≤ s.toList.length := by
    rw [String.length_toList]
    exact h.le hd
  refine ⟨fun default x => Value.exists_marks_number _ _ x, fun args k h => ?_, fun args k h => ?_, fun args k h => ?_,
    fun args => ⟨_, Text.isLast_last? _ _, TextMethod.invoke_lastIndexOf⟩, fun args hq => ?_⟩
  · obtain ⟨hindex, hincludes, -⟩ := TextMethod.invoke_from h site
    have hsame : (TextMethod.ofPlace (Text.firstFrom? p.toList s.toList k)).same minusOne =
      (Text.firstFrom? p.toList s.toList k).isNone := TextMethod.same_ofPlace_none _
    refine ⟨_, Text.isFirst_firstFrom? (hle h (Nat.zero_le _)), hindex, ?_⟩
    rw [hsame, Option.not_isNone]
    exact hincludes
  · refine ⟨_, (TextMethod.invoke_from h site).2.2, ?_⟩
    rw [← Text.occursAt_zero_iff, ← Text.occursAt_add_iff (hle h (Nat.zero_le _)), Nat.zero_add]
  · refine ⟨_, TextMethod.invoke_endsWith h, ?_⟩
    rw [Text.isSuffixOf_take_iff (hle h le_rfl), String.length_toList]
  · obtain ⟨q, hq⟩ := hq
    have hzero : (Argument.get [] 0).Marks s.length 0 0 := .missing
    have hindex : run .indexOf [] = _ := (TextMethod.invoke_from hzero site).1
    rw [hindex, Text.firstFrom?_zero]
    exact TextMethod.invoke_search hq

/-- Accented characters count as one, and places past the first one where a text stands give the next one. -/
theorem searches_agree_accented :
    let run (m : TextMethod) (args : List Value) := m.invoke (some (.text "né né")) (.text "é" :: args) (.root 0)
    let two : Value := .number (Number.ofWhole 2)
    (two.Marks 5 0 2 ∧ run .indexOf [two] = .ok (.number (Number.ofWhole 4)) ∧
      run .includes [two] = .ok (.boolean true) ∧ run .startsWith [two] = .ok (.boolean false)) ∧
    (two.Marks 5 5 2 ∧ run .endsWith [two] = .ok (.boolean true)) ∧
    ((∃ q, Pattern.literal "é" = .ok q) ∧ run .search [] = run .indexOf []) := by
  intro run two
  obtain ⟨-, hindex, hstarts, hends, -, hsearch⟩ := searches_agree "né né" "é" (.root 0)
  have htwo : Number.value? (Number.ofWhole 2) = some ((2 : ℕ) : ℚ) :=
    Number.value?_eq_natCast_iff.2 ⟨false, 2 ^ 52, -51, by decide, by decide, nofun, by decide⟩
  have hmarks (default : ℕ) : two.Marks 5 default 2 := by
    have h : two.Marks 5 default (min ⌊((2 : ℕ) : ℚ)⌋₊ 5) := .finite htwo
    rwa [Nat.floor_natCast] at h
  have hlength : "né né".length = 5 := by decide
  have hliteral : ∃ q, Pattern.literal "é" = .ok q := Pattern.exists_literal_iff.2 (by decide)
  rw [hlength] at hindex hstarts hends
  refine ⟨⟨hmarks 0, ?_⟩, ⟨hmarks 5, ?_⟩, hliteral, hsearch [] hliteral⟩
  · obtain ⟨found, hfound, hrun, hincludes⟩ := hindex [two] 2 (hmarks 0)
    have hfour : found = some 4 := hfound.unique (Text.isFirst_firstFrom? (by decide))
    subst hfour
    obtain ⟨b, hb, hiff⟩ := hstarts [two] 2 (hmarks 0)
    have hnot : b = false := by
      rw [← Bool.not_eq_true, hiff, Text.occursAt_iff]
      decide
    exact ⟨hrun, hincludes, hnot ▸ hb⟩
  · obtain ⟨b, hb, hiff⟩ := hends [two] 2 (hmarks 5)
    have hyes : b = true := hiff.2 ⟨1, Text.occursAt_iff.2 (by decide), rfl⟩
    exact hyes ▸ hb

end GatedFormula
