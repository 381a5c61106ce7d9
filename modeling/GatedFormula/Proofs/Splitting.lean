/-
  Splitting a text and replacing in it cut at the same places.
  - `Text.Cuts` says how a text falls apart at the places where another one stands, found from the left.
  - `Text.cuts_pieces`: the pieces of a text are what it falls into, and `Cuts.intercalate_eq` puts them together again.
  - `Text.Cuts.replaceFrom_eq`: replacing what the pattern of a text finds puts them together with another text.
  Main statement: `splits_rejoin`.
-/
import GatedFormula.Proofs.Searching

namespace GatedFormula

namespace Text

variable {p s : List Char} {k n : ℕ} {parts : List (List Char)}

theorem OccursAt.cut (h : OccursAt p s k) : s.take k ++ p ++ s.drop (k + p.length) = s := by
  obtain ⟨before, after, rfl, rfl⟩ := h
  rw [← List.length_append, List.drop_left, List.append_assoc, List.append_assoc, List.take_left]

/-- What stands in a start of a text stands in the text. -/
theorem OccursAt.of_take {i : ℕ} (h : OccursAt p (s.take k) i) : OccursAt p s i := by
  obtain ⟨before, after, hs, hi⟩ := h
  refine ⟨before, after ++ s.drop k, ?_, hi⟩
  rw [← List.append_assoc, ← hs, List.take_append_drop]

theorem occursAt_of_first? (h : first? p s = some k) : OccursAt p s k := by
  have hfirst := isFirst_first? p s
  rw [h] at hfirst
  exact hfirst.1

theorem not_occursAt_of_first? {i : ℕ} (h : first? p s = none) : ¬ OccursAt p s i := by
  have hfirst := isFirst_first? p s
  rw [h] at hfirst
  exact Set.eq_empty_iff_forall_notMem.1 hfirst i

/-! ## Cutting -/

/-- A text cut at the first place where `p` stands, and its rest cut again. -/
inductive Cuts (p : List Char) : List Char → List (List Char) → Prop
  | last {s : List Char} (h : first? p s = none) : Cuts p s [s]
  | cut {s : List Char} {k : ℕ} {parts : List (List Char)} (h : first? p s = some k)
      (hrest : Cuts p (s.drop (k + p.length)) parts) : Cuts p s (s.take k :: parts)

theorem Cuts.ne_nil (h : Cuts p s parts) : parts ≠ [] := by
  cases h <;> exact List.cons_ne_nil _ _

/-- **The parts of a text make up the text again.** -/
theorem Cuts.intercalate_eq (h : Cuts p s parts) : List.intercalate p parts = s := by
  induction h with
  | last h => exact List.intercalate_singleton
  | cut h hrest ih => rw [List.intercalate_cons_of_ne_nil hrest.ne_nil, ih, (occursAt_of_first? h).cut]

/-- **No part has the text in it at which it was cut.** -/
theorem Cuts.not_occursAt (hp : p ≠ []) (h : Cuts p s parts) : ∀ part ∈ parts, ∀ i, ¬ OccursAt p part i := by
  induction h with
  | last h =>
    intro part hpart i
    rw [List.mem_singleton.1 hpart]
    exact not_occursAt_of_first? h
  | @cut s k parts h hrest ih =>
    intro part hpart i hi
    rcases List.mem_cons.1 hpart with rfl | hpart
    · have hfirst := isFirst_first? p s
      rw [h] at hfirst
      have hki : k ≤ i := hfirst.2 hi.of_take
      have hlen := hi.le
      have hpos := List.length_pos_iff.2 hp
      rw [List.length_take] at hlen
      omega
    · exact ih part hpart i hi

/-- A text is cut into at most one part more than it has characters. -/
theorem Cuts.length_le (hp : p ≠ []) (h : Cuts p s parts) : parts.length ≤ s.length + 1 := by
  induction h with
  | last h => simp
  | cut h hrest ih =>
    have hle := (occursAt_of_first? h).le
    have hpos := List.length_pos_iff.2 hp
    rw [List.length_drop] at ih
    rw [List.length_cons]
    omega

/-! ## The pieces -/

/-- What is left of an occurrence is passed over. -/
theorem piecesAfter_skip (p : List Char) (n : ℕ) (piece s : List Char) :
    piecesAfter p n piece s = piecesAfter p 0 piece (s.drop n) := by
  induction n generalizing s with
  | zero => rw [List.drop_zero]
  | succ n ih =>
    cases s with
    | nil => rfl
    | cons c s => rw [piecesAfter, ih, List.drop_succ_cons]

/-- The first piece goes up to the first place where the text stands. -/
theorem piecesAfter_eq (hp : p ≠ []) (piece s : List Char) :
    piecesAfter p 0 piece s = match first? p s with
      | none => [piece.reverse ++ s]
      | some k => (piece.reverse ++ s.take k) :: piecesAfter p 0 [] (s.drop (k + p.length)) := by
  induction s generalizing piece with
  | nil =>
    have hfirst : first? p [] = none := by
      rw [first?, List.isEmpty_eq_false_iff.2 hp]
      rfl
    rw [hfirst, piecesAfter, List.append_nil]
  | cons c s ih =>
    rw [piecesAfter, first?]
    split
    · obtain ⟨n, hn⟩ : ∃ n, p.length = n + 1 := Nat.exists_eq_succ_of_ne_zero (List.length_pos_iff.2 hp).ne'
      rw [piecesAfter_skip]
      simp [hn]
    · rw [ih]
      cases first? p s with
      | none => simp
      | some k => simp [Nat.add_right_comm]

/-- **The pieces of a text are what it falls into.** -/
theorem cuts_pieces (hp : p ≠ []) (s : List Char) : Cuts p s (pieces p s) := by
  rw [pieces, List.isEmpty_eq_false_iff.2 hp, if_neg Bool.false_ne_true]
  induction hlen : s.length using Nat.strong_induction_on generalizing s with
  | _ n ih =>
    have hstep := piecesAfter_eq hp [] s
    simp only [List.reverse_nil, List.nil_append] at hstep
    rw [hstep]
    split
    · rename_i h
      exact .last h
    · rename_i k h
      have hle := (occursAt_of_first? h).le
      have hpos := List.length_pos_iff.2 hp
      exact .cut h (ih _ (by rw [List.length_drop]; omega) _ rfl)

theorem intercalate_singletons (s : List Char) : List.intercalate [] (s.map fun c => [c]) = s := by
  induction s with
  | nil => rfl
  | cons c s ih =>
    cases s with
    | nil => rfl
    | cons d s =>
      rw [List.map_cons] at ih ⊢
      rw [List.map_cons, List.intercalate_cons_cons, ih]
      rfl

/-- **Joined with the text at which it was cut, the pieces of a text make up the text again.** -/
theorem intercalate_pieces (p s : List Char) : List.intercalate p (pieces p s) = s := by
  by_cases hp : p = []
  · rw [hp]
    exact intercalate_singletons s
  · exact (cuts_pieces hp s).intercalate_eq

end Text

/-! ## Replacing -/

variable {p r : List Char} {q : Pattern} {P : Program} {s : List Char}

/-- A replacement text that stands for itself is put in as it is. -/
theorem Pattern.expand_verbatim (q : Pattern) (s : List Char) (m : Match) (r : List Char) :
    q.expand s m (verbatim r) = r := by
  induction r with
  | nil => rfl
  | cons c r ih =>
    rw [verbatim, List.map_cons, expand, List.flatMap_cons]
    exact congrArg (c :: ·) ih

/-- The part of a text between a place and one after it. -/
theorem Pattern.part_add (s : List Char) (place k : ℕ) : part s place (k + place) = (s.drop place).take k := by
  rw [part, Nat.add_sub_cancel]

/-- **Replacing what the program of a text finds joins the parts with another text.** -/
theorem Text.Cuts.replaceFrom_eq {ahead : List Char} {parts : List (List Char)} (h : Cuts p ahead parts) (hp : p ≠ [])
    (hP : P.IsLiteral p) (q : Pattern) (r : List Char) {place : ℕ} (hle : place ≤ s.length)
    (hplace : s.drop place = ahead) (last : Option ℕ) {fuel : ℕ} (hfuel : parts.length ≤ fuel) :
    q.replaceFrom s (Pattern.verbatim r) place (P.findAllFrom s.toArray last place fuel) =
      List.intercalate r parts := by
  induction h generalizing place last fuel with
  | last h =>
    obtain ⟨fuel, rfl⟩ : ∃ n, fuel = n + 1 := Nat.exists_eq_succ_of_ne_zero (Nat.ne_of_gt hfuel)
    have hfind : P.find? s.toArray place = none := by
      rw [Program.find?_literal hP hle, firstFrom?, hplace, h]
      rfl
    rw [Program.findAllFrom, hfind, List.intercalate_singleton, ← hplace]
    rfl
  | @cut ahead k parts h hrest ih =>
    obtain ⟨fuel, rfl⟩ : ∃ n, fuel = n + 1 :=
      Nat.exists_eq_succ_of_ne_zero (Nat.ne_of_gt (Nat.zero_lt_of_lt hfuel))
    have hfind : P.find? s.toArray place = some (Program.literalMatch p (k + place)) := by
      rw [Program.find?_literal hP hle, firstFrom?, hplace, h]
      rfl
    have hpos := List.length_pos_iff.2 hp
    have hlen := (occursAt_of_first? h).le
    rw [← hplace, List.length_drop] at hlen
    have hnext : k + place + p.length ≤ s.length := by omega
    have hdrop : s.drop (k + place + p.length) = ahead.drop (k + p.length) := by
      rw [← hplace, List.drop_drop]
      congr 1
      omega
    -- a match is never empty, so none is passed over
    have hne : (Program.literalMatch p (k + place)).start ≠ (Program.literalMatch p (k + place)).stop := by
      rw [Program.literalMatch_start, Program.literalMatch_stop]
      omega
    rw [Program.findAllFrom, hfind, List.intercalate_cons_of_ne_nil hrest.ne_nil]
    simp only [if_neg (not_and_of_not_left _ hne)]
    rw [Pattern.replaceFrom, Pattern.expand_verbatim, Program.literalMatch_start, Program.literalMatch_stop,
      Pattern.part_add, hplace, ih hnext hdrop _ (Nat.le_of_succ_le_succ hfuel)]

/-- **Replacing every match of a text joins its pieces with another text.** -/
theorem Pattern.replaceAll_of_literal {p : String} (hp : p.toList ≠ []) (hq : literal p = .ok q) (s r : List Char) :
    q.replaceAll s (verbatim r) = List.intercalate r (Text.pieces p.toList s) := by
  obtain ⟨-, rfl⟩ := literal_eq_ok_iff.1 hq
  have hcuts := Text.cuts_pieces hp s
  refine hcuts.replaceFrom_eq hp (Program.isLiteral_ofRegex _) _ r (Nat.zero_le _) rfl none ?_
  have hle := hcuts.length_le hp
  rw [List.size_toArray]
  omega

/-- Where a text does not stand, nothing is replaced. -/
theorem Pattern.replaceFirst_of_none {p : String} (hq : literal p = .ok q) (hs : Text.first? p.toList s = none)
    (template : List Piece) : q.replaceFirst s template = s := by
  rw [replaceFirst, first?_of_literal hq, hs]
  rfl

/-- Replacing the first match of a text changes what stands there and nothing else. -/
theorem Pattern.replaceFirst_of_some {p : String} (hq : literal p = .ok q) {before after : List Char}
    (hs : Text.first? p.toList (before ++ p.toList ++ after) = some before.length) (r : List Char) :
    q.replaceFirst (before ++ p.toList ++ after) (verbatim r) = before ++ r ++ after := by
  rw [replaceFirst, first?_of_literal hq, hs]
  simp [replaceFrom, expand_verbatim, part]

/-- A text is not a pattern that works on every match. -/
theorem Pattern.isGlobal_of_literal {p : String} (hq : literal p = .ok q) : q.isGlobal = false := by
  obtain ⟨-, rfl⟩ := literal_eq_ok_iff.1 hq
  rfl

/-! ## The methods -/

namespace TextMethod

variable {args : List Value} {p s : String} {site : Place}

/-- A split keeps as many parts as its limit says. -/
theorem invoke_split {limit : Position} (h : Argument.position "split" (.text p :: args) 1 .beyond = .ok limit) :
    invoke .split (some (.text s)) (.text p :: args) site =
      .ok (.array site ((match partLimit limit with
        | some n => (Text.pieces p.toList s.toList).take n
        | none => Text.pieces p.toList s.toList).map ofChars)) := by
  rw [invoke, apply, splitValue, h]
  rfl

theorem invoke_split_missing (h : Argument.get args 0 = .undefined) :
    invoke .split (some (.text s)) (.text p :: args) site =
      .ok (.array site ((Text.pieces p.toList s.toList).map ofChars)) := by
  have hget : Argument.get (.text p :: args) 1 = .undefined := h
  have hread : Argument.position "split" (.text p :: args) 1 .beyond = .ok .beyond := by
    rw [Argument.position, hget]
  exact invoke_split hread

/-- A count as a limit keeps so many parts. -/
theorem invoke_split_count {x : Float} {n : ℕ} (h : Argument.get args 0 = .number x)
    (hn : Number.value? x = some (n : ℚ)) :
    invoke .split (some (.text s)) (.text p :: args) site =
      .ok (.array site (((Text.pieces p.toList s.toList).take n).map ofChars)) := by
  have hget : Argument.get (.text p :: args) 1 = .number x := h
  have hread : Argument.position "split" (.text p :: args) 1 .beyond = .ok (.index n) := by
    rw [← Position.ofNumber_of_value? hn, Argument.position, hget]
  have hlimit : partLimit (.index n) = some n := by
    rw [partLimit, if_neg (by omega), Int.toNat_natCast]
  rw [invoke_split hread, hlimit]

theorem invoke_replaceAll {r : String} {q : Pattern} (hq : Pattern.literal p = .ok q) :
    invoke .replaceAll (some (.text s)) (.text p :: .text r :: args) site =
      .ok (ofChars (q.replaceAll s.toList (Pattern.verbatim r.toList))) := by
  rw [invoke, apply, replaceAllValue, needle_of_literal hq]
  rfl

theorem invoke_replace {r : String} {q : Pattern} (hq : Pattern.literal p = .ok q) :
    invoke .replace (some (.text s)) (.text p :: .text r :: args) site =
      .ok (ofChars (q.replaceFirst s.toList (Pattern.verbatim r.toList))) := by
  have hglobal := Pattern.isGlobal_of_literal hq
  rw [invoke, apply, replaceValue, needle_of_literal hq]
  change Except.ok (ofChars ((if q.isGlobal then q.replaceAll else q.replaceFirst) s.toList _)) = _
  rw [hglobal]
  rfl

end TextMethod

/-- The pieces of a text, as texts. -/
def Text.parts (p s : String) : List String := (pieces p.toList s.toList).map String.ofList

/-- Joined with any text, the parts are the pieces joined with it. -/
theorem Text.intercalate_parts (p s r : String) :
    r.intercalate (parts p s) = String.ofList (List.intercalate r.toList (pieces p.toList s.toList)) := by
  rw [← String.toList_inj, String.toList_intercalate, String.toList_ofList, parts, List.map_map]
  simp [Function.comp_def]

/-- **Splitting and replacing cut a text at the same places.** Joined with the text at which a text was split, the parts
give it back. If that text is not empty, no part has it, and to replace every match is to join the parts with the
replacement, whatever stands in it. To replace the first match is to change what stands at the first place where the
text is found, and a limit keeps so many of the parts. -/
theorem splits_rejoin (s p r : String) (site : Place) :
    let run (m : TextMethod) (args : List Value) := m.invoke (some (.text s)) (.text p :: args) site
    ∃ parts : List String,
      (∀ args, Argument.get args 0 = .undefined → run .split args = .ok (.array site (parts.map .text))) ∧
      (∀ args x (n : ℕ), Argument.get args 0 = .number x → Number.value? x = some (n : ℚ) →
        run .split args = .ok (.array site ((parts.take n).map .text))) ∧
      p.intercalate parts = s ∧
      (p ≠ "" → (∀ part ∈ parts, ∀ i, ¬ Text.OccursAt p.toList part.toList i) ∧
        ∀ args, (∃ q, Pattern.literal p = .ok q) →
          run .replaceAll (.text r :: args) = .ok (.text (r.intercalate parts))) ∧
      ∃ found, Text.IsFirst {i | Text.OccursAt p.toList s.toList i} found ∧
        run .indexOf [] = .ok (TextMethod.ofPlace found) ∧
        ∀ args, (∃ q, Pattern.literal p = .ok q) →
          (found = none → run .replace (.text r :: args) = .ok (.text s)) ∧
          ∀ i, found = some i → ∃ before after : String, s = before ++ p ++ after ∧ before.length = i ∧
            run .replace (.text r :: args) = .ok (.text (before ++ r ++ after)) := by
  intro run
  have hparts (pieces : List (List Char)) : pieces.map TextMethod.ofChars = (pieces.map String.ofList).map .text := by
    rw [List.map_map]
    rfl
  refine ⟨Text.parts p s, fun args h => ?_, fun args x n h hn => ?_, ?_, fun hp => ⟨?_, ?_⟩, ?_⟩
  · exact (TextMethod.invoke_split_missing h).trans (by rw [hparts, Text.parts])
  · exact (TextMethod.invoke_split_count h hn).trans (by rw [hparts, Text.parts, List.map_take])
  · rw [Text.intercalate_parts, Text.intercalate_pieces, String.ofList_toList]
  · have hcuts := Text.cuts_pieces (mt String.toList_eq_nil_iff.1 hp) s.toList
    intro part hpart i
    obtain ⟨piece, hpiece, rfl⟩ := List.mem_map.1 hpart
    rw [String.toList_ofList]
    exact hcuts.not_occursAt (mt String.toList_eq_nil_iff.1 hp) piece hpiece i
  · rintro args ⟨q, hq⟩
    rw [Text.intercalate_parts, ← Pattern.replaceAll_of_literal (mt String.toList_eq_nil_iff.1 hp) hq]
    exact TextMethod.invoke_replaceAll hq
  · have hmarks : (Argument.get [] 0).Marks s.length 0 0 := .missing
    have hindex := (TextMethod.invoke_from (p := p) hmarks site).1
    rw [Text.firstFrom?_zero] at hindex
    refine ⟨Text.first? p.toList s.toList, Text.isFirst_first? _ _, hindex, ?_⟩
    rintro args ⟨q, hq⟩
    have hreplace : run .replace (.text r :: args) = _ := TextMethod.invoke_replace hq
    refine ⟨fun hnone => ?_, fun i hi => ?_⟩
    · rw [Pattern.replaceFirst_of_none hq hnone, TextMethod.ofChars, String.ofList_toList] at hreplace
      exact hreplace
    · obtain ⟨before, after, hs, rfl⟩ := Text.occursAt_of_first? hi
      rw [hs] at hi
      rw [hs, Pattern.replaceFirst_of_some hq hi, TextMethod.ofChars, String.ofList_append, String.ofList_append,
        String.ofList_toList] at hreplace
      refine ⟨String.ofList before, String.ofList after, ?_, String.length_ofList, hreplace⟩
      rw [← String.toList_inj]
      simpa using hs

/-- A point stands for itself, and so does a dollar sign in a replacement. -/
theorem splits_rejoin_point :
    let run (m : TextMethod) (args : List Value) := m.invoke (some (.text "a.b.c")) (.text "." :: args) (.root 0)
    let two : Value := .number (Number.ofWhole 2)
    (Argument.get [] 0 = .undefined ∧ run .split [] = .ok (.array (.root 0) [.text "a", .text "b", .text "c"])) ∧
    (Number.value? (Number.ofWhole 2) = some ((2 : ℕ) : ℚ) ∧
      run .split [two] = .ok (.array (.root 0) [.text "a", .text "b"])) ∧
    ("." ≠ "" ∧ (∃ q, Pattern.literal "." = .ok q) ∧ run .replaceAll [.text "$1"] = .ok (.text "a$1b$1c")) ∧
    ∃ before after : String, "a.b.c" = before ++ "." ++ after ∧ before.length = 1 ∧
      run .replace [.text "$1"] = .ok (.text (before ++ "$1" ++ after)) := by
  intro run two
  obtain ⟨parts, hsplit, hlimit, -, hall, found, hfound, -, hreplace⟩ := splits_rejoin "a.b.c" "." "$1" (.root 0)
  have hliteral : ∃ q, Pattern.literal "." = .ok q := Pattern.exists_literal_iff.2 (by decide)
  have htwo : Number.value? (Number.ofWhole 2) = some ((2 : ℕ) : ℚ) :=
    Number.value?_eq_natCast_iff.2 ⟨false, 2 ^ 52, -51, by decide, by decide, nofun, by decide⟩
  have hparts : parts = ["a", "b", "c"] := by
    have hrun : run .split [] = .ok (.array (.root 0) (["a", "b", "c"].map .text)) := rfl
    have h := hrun.symm.trans (hsplit [] rfl)
    rw [Except.ok.injEq, Value.array.injEq] at h
    exact (List.map_injective_iff.2 (fun _ _ => Value.text.inj) h.2).symm
  have hone : found = some 1 := hfound.unique (Text.isFirst_first? _ _)
  have hwhole := hsplit [] rfl
  have hcut := hlimit [two] (Number.ofWhole 2) 2 rfl htwo
  have hjoin := (hall (by decide)).2 [] hliteral
  rw [hparts] at hwhole hcut hjoin
  exact ⟨⟨rfl, hwhole⟩, ⟨htwo, hcut⟩, ⟨by decide, hliteral, hjoin⟩, (hreplace [] hliteral).2 1 hone⟩

end GatedFormula
