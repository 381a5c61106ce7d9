/-
  The methods that make a text longer.
  - `Text.padding_spec`: what is put before or behind a text goes through the text to fill with over and over.
  - `Position.AtMost` compares a position with a count, and `TextMethod.padTo_cases` says by it what padding does.
  - `Position.IsRefused` says which counts a text is not repeated, and `TextMethod.repeatTimes_cases` what it is then.
  Main statement: `builders_bounded`.
-/
import GatedFormula.Method.Text
import GatedFormula.Proofs.WholePart

namespace GatedFormula

/-! ## What is built -/

namespace Text

variable {fill : List Char}

theorem padding_eq_map (h : 0 < fill.length) (count : ℕ) :
    padding fill count = (List.range count).map fun i => fill.get ⟨i % fill.length, Nat.mod_lt i h⟩ := by
  rw [padding, ← List.filterMap_eq_map']
  exact List.filterMap_congr fun i _ => List.getElem?_eq_getElem _

/-- **Padding goes through the text to fill with over and over.** -/
theorem padding_spec (h : fill ≠ []) (count : ℕ) : (padding fill count).length = count ∧
    ∀ i < count, (padding fill count)[i]? = fill[i % fill.length]? := by
  have hpos := List.length_pos_iff.2 h
  rw [padding_eq_map hpos]
  refine ⟨by simp, fun i hi => ?_⟩
  rw [List.getElem?_map, List.getElem?_range hi]
  exact (List.getElem?_eq_getElem _).symm

theorem copies_eq (s : List Char) (count : ℕ) : copies s count = (List.replicate count s).flatten := by
  rw [copies]
  split
  · rename_i h
    rw [List.isEmpty_iff.1 h]
    simp
  · rfl

theorem length_copies (s : List Char) (count : ℕ) : (copies s count).length = count * s.length := by
  rw [copies_eq, List.length_flatten, List.map_replicate, List.sum_replicate, smul_eq_mul]

end Text

/-! ## Positions and counts -/

/-- Is a position not beyond a count? -/
def Position.AtMost (t : Position) (n : ℕ) : Prop :=
  match t with
  | .before => True
  | .index i => i ≤ n
  | .beyond => False

theorem Position.atMost_index {k n : ℕ} : (Position.index k).AtMost n ↔ k ≤ n := Int.ofNat_le

/-- Is a text of a length not repeated so many times? Not if the count is negative or infinite, or if there were too
many characters. -/
def Position.IsRefused (t : Position) (length : ℕ) : Prop :=
  match t with
  | .before | .beyond => True
  | .index i => i < 0 ∨ 2 ^ 29 < i * length

/-- A count that fits is not refused. -/
theorem Position.not_isRefused {k length : ℕ} (h : k * length ≤ Text.longest) :
    ¬ (Position.index k).IsRefused length := by
  have hle : (k : ℤ) * length ≤ 2 ^ 29 := by exact_mod_cast h
  rintro (h | h) <;> omega

/-- The text to fill with that an argument gives, a space if it is missing. -/
inductive Value.Fills : Value → String → Prop
  | missing : Fills .undefined " "
  | given (s : String) : Fills (.text s) s

theorem Argument.textOr_eq_ok_iff {function : String} {args : List Value} {i : ℕ} {cs : List Char} :
    textOr function args i [' '] = .ok cs ↔ ∃ fill : String, (get args i).Fills fill ∧ cs = fill.toList := by
  rw [textOr]
  constructor
  · intro h
    split at h
    · rename_i hv
      rw [hv]
      exact ⟨" ", .missing, (Except.ok.inj h).symm⟩
    · rw [Argument.text] at h
      split at h
      · rename_i hv
        rw [hv]
        exact ⟨_, .given _, (Except.ok.inj h).symm⟩
      · cases h
  · rintro ⟨fill, h, rfl⟩
    rw [Argument.text]
    cases hv : get args i with
    | undefined | text =>
      rw [hv] at h
      cases h
      rfl
    | _ =>
      rw [hv] at h
      cases h

/-! ## Padding -/

namespace TextMethod

variable {m : TextMethod} {s fill : List Char} {t : Position} {atStart : Bool} {k : ℕ}

theorem padTo_of_atMost (h : t.AtMost s.length ∨ fill = []) : padTo m s fill t atStart = .ok (ofChars s) := by
  cases t with
  | before => rfl
  | index i => exact if_pos h
  | beyond => exact if_pos (h.resolve_left nofun)

theorem padTo_of_long (h : ¬ t.AtMost s.length) (hf : fill ≠ []) (hl : ¬ t.AtMost Text.longest) :
    padTo m s fill t atStart = .error (.failed m.name (.badLength t)) := by
  cases t with
  | before => exact absurd trivial h
  | index i =>
    have hi : ¬ (i ≤ s.length ∨ fill = []) := not_or.2 ⟨h, hf⟩
    exact (if_neg hi).trans (if_pos (not_le.1 hl))
  | beyond => exact if_neg hf

/-- Up to the longest text that may be built, a text is filled up. -/
theorem padTo_of_index (h : s.length < k) (hl : k ≤ Text.longest) (hf : fill ≠ []) :
    padTo m s fill (.index k) atStart =
      .ok (ofChars (if atStart then Text.padding fill (k - s.length) ++ s
        else s ++ Text.padding fill (k - s.length))) := by
  rw [padTo, if_neg (not_or.2 ⟨by omega, hf⟩), if_neg (by omega), Int.toNat_natCast]

/-- **Padding leaves a text as it is, complains, or fills it up.** -/
theorem padTo_cases (m : TextMethod) (s fill : List Char) (t : Position) (atStart : Bool) :
    ((t.AtMost s.length ∨ fill = []) ∧ padTo m s fill t atStart = .ok (ofChars s)) ∨
      ((¬ t.AtMost s.length ∧ fill ≠ [] ∧ ¬ t.AtMost Text.longest) ∧
        padTo m s fill t atStart = .error (.failed m.name (.badLength t))) ∨
      ∃ k : ℕ, t = .index k ∧ s.length < k ∧ k ≤ Text.longest ∧ fill ≠ [] ∧ padTo m s fill t atStart =
        .ok (ofChars (if atStart then Text.padding fill (k - s.length) ++ s
          else s ++ Text.padding fill (k - s.length))) := by
  by_cases hsame : t.AtMost s.length ∨ fill = []
  · exact .inl ⟨hsame, padTo_of_atMost hsame⟩
  · obtain ⟨hn, hf⟩ := not_or.1 hsame
    by_cases hl : t.AtMost Text.longest
    · cases t with
      | before => exact absurd trivial hn
      | beyond => cases hl
      | index i =>
        have hlong : (s.length : ℤ) < i := not_le.1 hn
        obtain ⟨k, rfl⟩ : ∃ k : ℕ, i = k := ⟨i.toNat, by omega⟩
        have hk : s.length < k := Int.ofNat_lt.1 hlong
        have hl : k ≤ Text.longest := Position.atMost_index.1 hl
        exact .inr (.inr ⟨k, rfl, hk, hl, hf, padTo_of_index hk hl hf⟩)
    · exact .inr (.inl ⟨⟨hn, hf, hl⟩, padTo_of_long hn hf hl⟩)

theorem pad_of_arguments {args : List Value} {f : String} (ht : (Argument.get args 0).Points (.index 0) t)
    (hf : (Argument.get args 1).Fills f) : pad m s args atStart = padTo m s f.toList t atStart := by
  rw [pad, Argument.position_eq_ok_iff.2 ht]
  simp only [Argument.textOr_eq_ok_iff.2 ⟨f, hf, rfl⟩]
  rfl

theorem arguments_of_pad {args : List Value} {v : Value} (h : pad m s args atStart = .ok v) :
    ∃ t f, (Argument.get args 0).Points (.index 0) t ∧ (Argument.get args 1).Fills f := by
  rw [pad] at h
  cases ht : Argument.position m.name args 0 (.index 0) with
  | error => rw [ht] at h; cases h
  | ok t =>
    rw [ht] at h
    cases hf : Argument.textOr m.name args 1 [' '] with
    | error =>
      change (Argument.textOr m.name args 1 [' '] >>= fun _ => _) = .ok v at h
      rw [hf] at h
      cases h
    | ok cs =>
      obtain ⟨f, hf, -⟩ := Argument.textOr_eq_ok_iff.1 hf
      exact ⟨t, f, Argument.position_eq_ok_iff.1 ht, hf⟩

variable {text f : String} {args : List Value}

theorem ofChars_toList (text : String) : ofChars text.toList = .text text :=
  congrArg Value.text String.ofList_toList

/-- What is filled up is another text. -/
theorem ofChars_ne_text {more : List Char} (h : more ≠ []) (atStart : Bool) :
    ofChars (if atStart then more ++ text.toList else text.toList ++ more) ≠ .text text := by
  rw [← ofChars_toList]
  intro heq
  have hlist := String.ofList_injective (Value.text.inj heq)
  cases atStart with
  | false => exact h (List.append_right_eq_self.1 hlist)
  | true => exact h (List.append_left_eq_self.1 hlist)

/-- The three things that padding does, each exactly when it should. -/
theorem padTo_spec (m : TextMethod) (text f : String) (t : Position) (atStart : Bool) :
    (padTo m text.toList f.toList t atStart = .ok (.text text) ↔ t.AtMost text.length ∨ f = "") ∧
    (∀ fault, padTo m text.toList f.toList t atStart = .error fault ↔
      fault = .failed m.name (.badLength t) ∧ ¬ t.AtMost text.length ∧ f ≠ "" ∧ ¬ t.AtMost Text.longest) ∧
    ∀ k : ℕ, t = .index k → text.length < k → k ≤ Text.longest → f ≠ "" → ∃ more : String,
      more.length + text.length = k ∧ (∀ i < more.length, more.toList[i]? = f.toList[i % f.length]?) ∧
      padTo m text.toList f.toList t atStart = .ok (.text (if atStart then more ++ text else text ++ more)) := by
  have hcases := padTo_cases m text.toList f.toList t atStart
  rw [ofChars_toList, String.length_toList, Ne, String.toList_eq_nil_iff] at hcases
  rcases hcases with ⟨hsame, h⟩ | ⟨hlong, h⟩ | ⟨k, rfl, hk, hl, hf, h⟩
  · rw [h]
    refine ⟨iff_of_true rfl hsame, fun fault => iff_of_false nofun ?_, ?_⟩
    · rintro ⟨-, hn, hf, -⟩
      exact hsame.elim hn hf
    · rintro k rfl hk - hf
      exact (hk.not_ge (Position.atMost_index.1 (hsame.resolve_right hf))).elim
  · rw [h]
    refine ⟨iff_of_false nofun (not_or.2 ⟨hlong.1, hlong.2.1⟩), fun fault => ?_, ?_⟩
    · rw [Except.error.injEq, eq_comm, and_iff_left hlong]
    · rintro k rfl - hl -
      exact absurd (Position.atMost_index.2 hl) hlong.2.2
  · obtain ⟨hlength, hchars⟩ := Text.padding_spec (mt String.toList_eq_nil_iff.1 hf) (k - text.length)
    have hne : Text.padding f.toList (k - text.length) ≠ [] := by
      rw [← List.length_pos_iff, hlength]
      omega
    have hshort : ¬ (Position.index k).AtMost text.length := fun h => hk.not_ge (Position.atMost_index.1 h)
    rw [h]
    refine ⟨iff_of_false (fun h => ofChars_ne_text hne atStart (Except.ok.inj h)) (not_or.2 ⟨hshort, hf⟩),
      fun fault => iff_of_false nofun fun h => h.2.2.2 (Position.atMost_index.2 hl), fun k' hk' _ _ _ => ?_⟩
    obtain rfl := Int.ofNat_inj.1 (Position.index.inj hk')
    refine ⟨String.ofList (Text.padding f.toList (k - text.length)), ?_, ?_, ?_⟩
    · rw [String.length_ofList, hlength]
      omega
    · rw [String.length_ofList, hlength, String.toList_ofList, ← String.length_toList]
      exact hchars
    · cases atStart <;> simp [ofChars]

/-! ## Repeating -/

/-- **A text is repeated a number of times**, or that number is refused. -/
theorem repeatTimes_cases (m : TextMethod) (s : List Char) (t : Position) :
    (t.IsRefused s.length ∧ repeatTimes m s t = .error (.failed m.name (.badCount t))) ∨
      ∃ k : ℕ, t = .index k ∧ k * s.length ≤ Text.longest ∧
        repeatTimes m s t = .ok (ofChars (List.replicate k s).flatten) := by
  cases t with
  | before | beyond => exact .inl ⟨trivial, rfl⟩
  | index i =>
    by_cases hi : i < 0 ∨ (Text.longest : ℤ) < i * s.length
    · exact .inl ⟨hi, if_pos hi⟩
    · obtain ⟨h0, hl⟩ := not_or.1 hi
      obtain ⟨k, rfl⟩ : ∃ k : ℕ, i = k := ⟨i.toNat, by omega⟩
      refine .inr ⟨k, rfl, by exact_mod_cast not_lt.1 hl, ?_⟩
      rw [repeatTimes, if_neg hi, Int.toNat_natCast, Text.copies_eq]

/-- The two things that repeating does, each exactly when it should. -/
theorem repeatTimes_spec (m : TextMethod) (text : String) (t : Position) :
    (∀ fault, repeatTimes m text.toList t = .error fault ↔
      fault = .failed m.name (.badCount t) ∧ t.IsRefused text.length) ∧
    ∀ k : ℕ, t = .index k → k * text.length ≤ Text.longest → ∃ r : String,
      repeatTimes m text.toList t = .ok (.text r) ∧ r.toList = (List.replicate k text.toList).flatten := by
  have hcases := repeatTimes_cases m text.toList t
  rw [String.length_toList] at hcases
  rcases hcases with ⟨hbad, h⟩ | ⟨k, rfl, hl, h⟩
  · rw [h]
    refine ⟨fun fault => ?_, ?_⟩
    · rw [Except.error.injEq, eq_comm, and_iff_left hbad]
    · rintro k rfl hl
      exact absurd hbad (Position.not_isRefused hl)
  · rw [h]
    refine ⟨fun fault => iff_of_false nofun fun h => Position.not_isRefused hl h.2, fun k' hk _ => ?_⟩
    obtain rfl := Int.ofNat_inj.1 (Position.index.inj hk)
    exact ⟨_, rfl, String.toList_ofList⟩

theorem invoke_repeated {args : List Value} (ht : (Argument.get args 0).Points (.index 0) t) (text : String)
    (site : Place) : invoke .repeated (some (.text text)) args site = repeatTimes .repeated text.toList t := by
  rw [invoke, apply]
  simp only [Argument.position_eq_ok_iff.2 ht]
  rfl

theorem argument_of_repeated {args : List Value} {v : Value} {site : Place}
    (h : invoke .repeated (some (.text text)) args site = .ok v) :
    ∃ t, (Argument.get args 0).Points (.index 0) t := by
  change (Argument.position repeated.name args 0 (.index 0) >>= repeatTimes .repeated text.toList) = .ok v at h
  cases ht : Argument.position repeated.name args 0 (.index 0) with
  | error =>
    rw [ht] at h
    cases h
  | ok t => exact ⟨t, Argument.position_eq_ok_iff.1 ht⟩

/-! ## Lengths -/

theorem length_of_padTo {v : Value} (h : padTo m s fill t atStart = .ok v) :
    ∃ r : String, v = .text r ∧ r.length ≤ max s.length Text.longest := by
  rcases padTo_cases m s fill t atStart with ⟨-, h'⟩ | ⟨-, h'⟩ | ⟨k, -, hk, hl, hf, h'⟩
  · obtain rfl := Except.ok.inj (h'.symm.trans h)
    exact ⟨_, rfl, by rw [String.length_ofList]; exact le_max_left _ _⟩
  · cases h'.symm.trans h
  · obtain rfl := Except.ok.inj (h'.symm.trans h)
    refine ⟨_, rfl, le_max_of_le_right ?_⟩
    have hlength := (Text.padding_spec hf (k - s.length)).1
    rw [String.length_ofList]
    cases atStart <;> simp only [Bool.false_eq_true, if_false, if_true, List.length_append, hlength] <;> omega

theorem length_of_repeatTimes {v : Value} (h : repeatTimes m s t = .ok v) :
    ∃ r : String, v = .text r ∧ r.length ≤ Text.longest := by
  rcases repeatTimes_cases m s t with ⟨-, h'⟩ | ⟨k, -, hl, h'⟩
  · cases h'.symm.trans h
  · obtain rfl := Except.ok.inj (h'.symm.trans h)
    refine ⟨_, rfl, ?_⟩
    rwa [String.length_ofList, ← Text.copies_eq, Text.length_copies]

end TextMethod

/-- **Texts are padded and repeated as far as told, and no further than may be.** -/
theorem builders_bounded (s : String) (site : Place) :
    let n := s.length
    let run (m : TextMethod) (args : List Value) := m.invoke (some (.text s)) args site
    (∀ x, ∃ t, (Value.number x).Points (.index 0) t) ∧
    (∀ (atStart : Bool) (args : List Value) (t : Position) (f : String),
      (Argument.get args 0).Points (.index 0) t → (Argument.get args 1).Fills f →
      let m := if atStart then TextMethod.padStart else .padEnd
      (run m args = .ok (.text s) ↔ t.AtMost n ∨ f = "") ∧
      (∀ fault, run m args = .error fault ↔
        fault = .failed m.name (.badLength t) ∧ ¬ t.AtMost n ∧ f ≠ "" ∧ ¬ t.AtMost (2 ^ 29)) ∧
      ∀ k : ℕ, t = .index k → n < k → k ≤ 2 ^ 29 → f ≠ "" → ∃ more : String, more.length + n = k ∧
        (∀ i < more.length, more.toList[i]? = f.toList[i % f.length]?) ∧
        run m args = .ok (.text (if atStart then more ++ s else s ++ more))) ∧
    (∀ (args : List Value) (t : Position), (Argument.get args 0).Points (.index 0) t →
      (∀ fault, run .repeated args = .error fault ↔ fault = .failed "repeat" (.badCount t) ∧ t.IsRefused n) ∧
      ∀ k : ℕ, t = .index k → k * n ≤ 2 ^ 29 → ∃ r : String, run .repeated args = .ok (.text r) ∧
        r.toList = (List.replicate k s.toList).flatten) ∧
    ∀ m ∈ [TextMethod.padStart, .padEnd, .repeated], ∀ args v, run m args = .ok v →
      ∃ r : String, v = .text r ∧ r.length ≤ max n (2 ^ 29) := by
  intro n run
  have hn : s.toList.length = n := String.length_toList
  have hlongest : Text.longest = 2 ^ 29 := rfl
  refine ⟨fun x => ⟨_, Value.points_number _ x⟩, fun atStart args t f ht hf => ?_, fun args t ht => ?_,
    fun m hm args v h => ?_⟩
  · intro m
    have hrun : run m args = TextMethod.padTo m s.toList f.toList t atStart := by
      cases atStart <;> exact TextMethod.pad_of_arguments ht hf
    rw [hrun, ← hlongest]
    exact TextMethod.padTo_spec m s f t atStart
  · have hrun : run .repeated args = _ := TextMethod.invoke_repeated ht s site
    rw [hrun]
    exact TextMethod.repeatTimes_spec .repeated s t
  · simp only [List.mem_cons, List.not_mem_nil, or_false] at hm
    rw [← hn, ← hlongest]
    rcases hm with rfl | rfl | rfl
    · obtain ⟨t, f, ht, hf⟩ := TextMethod.arguments_of_pad h
      exact TextMethod.length_of_padTo ((TextMethod.pad_of_arguments ht hf).symm.trans h)
    · obtain ⟨t, f, ht, hf⟩ := TextMethod.arguments_of_pad h
      exact TextMethod.length_of_padTo ((TextMethod.pad_of_arguments ht hf).symm.trans h)
    · obtain ⟨t, ht⟩ := TextMethod.argument_of_repeated h
      obtain ⟨r, hr, hle⟩ := TextMethod.length_of_repeatTimes ((TextMethod.invoke_repeated ht s site).symm.trans h)
      exact ⟨r, hr, le_max_of_le_right hle⟩

/-- Five characters from two, an endless number of them, and none at all. -/
theorem builders_bounded_accented :
    let run (m : TextMethod) (args : List Value) := m.invoke (some (.text "né")) args (.root 0)
    let whole (n : ℤ) : Value := .number (Number.ofWhole n)
    ((whole 5).Points (.index 0) (.index 5) ∧ (Value.text "ab").Fills "ab" ∧
      ∃ more : String, more.length + 2 = 5 ∧ run .padStart [whole 5, .text "ab"] = .ok (.text (more ++ "né"))) ∧
    ((Value.number Number.infinity).Points (.index 0) .beyond ∧ Value.undefined.Fills " " ∧
      run .padEnd [.number Number.infinity] = .error (.failed "padEnd" (.badLength .beyond))) ∧
    ((whole 0).Points (.index 0) (.index 0) ∧ ∃ r : String, run .repeated [whole 0] = .ok (.text r) ∧ r.toList = []) ∧
    (TextMethod.repeated ∈ [TextMethod.padStart, .padEnd, .repeated] ∧
      run .repeated [whole 3] = .ok (.text "nénéné") ∧ ∃ r : String, "nénéné" = r ∧ r.length ≤ max 2 (2 ^ 29)) := by
  intro run whole
  obtain ⟨-, hpad, hrepeat, hbound⟩ := builders_bounded "né" (.root 0)
  have hfive : (whole 5).Points (.index 0) (.index 5) := Value.points_ofWhole (by decide) _
  have hbeyond : Exact.of Number.infinity = .infinite false := by decide
  have hinfinity : (Value.number Number.infinity).Points (.index 0) .beyond := .infinite hbeyond
  have hzero : (whole 0).Points (.index 0) (.index 0) := Value.points_ofWhole (by decide) _
  refine ⟨⟨hfive, .given _, ?_⟩, ⟨hinfinity, .missing, ?_⟩, ⟨hzero, ?_⟩, by decide, ?_⟩
  · obtain ⟨-, -, hfill⟩ := hpad true [whole 5, .text "ab"] _ _ hfive (.given "ab")
    obtain ⟨more, hlength, -, hrun⟩ := hfill 5 rfl (by decide) (by decide) (by decide)
    exact ⟨more, hlength, hrun⟩
  · obtain ⟨-, hfails, -⟩ := hpad false [.number Number.infinity] _ _ hinfinity .missing
    exact (hfails _).2 ⟨rfl, nofun, by decide, nofun⟩
  · exact (hrepeat [whole 0] _ hzero).2 0 rfl (by decide)
  · have hrun : run .repeated [whole 3] = .ok (.text "nénéné") := rfl
    obtain ⟨r, hr, hle⟩ := hbound .repeated (by decide) _ _ hrun
    exact ⟨hrun, r, Value.text.inj hr, hle⟩

end GatedFormula
