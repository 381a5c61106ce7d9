/-
  How a program that matches a text as it stands runs.
  - `Begun` is a match that has begun, `Begun.way` the way that goes on with it.
  - `Waits` says which matches the ways at a place go on with; `advance_begun` takes all of them over one character.
  - `runFrom_literal`: the run finds the first match that the text ahead completes.
  Main statement: `find?_literal`.
-/
import GatedFormula.Proofs.Literal
import GatedFormula.Proofs.Occurrence

namespace GatedFormula

theorem CharSet.contains_single {c d : Char} : (CharSet.single c).contains d ↔ c = d := by
  rw [contains, single, inRuns, inRuns]
  constructor
  · intro h
    split at h
    · cases h
    · rename_i hlt
      have hle : d.toNat ≤ c.toNat := by simpa using h
      exact Char.toNat_inj.1 (by omega)
  · rintro rfl
    simp

namespace Program

/-! ## Following single steps -/

section Follow

variable {P : Program} {text : Array Char} {k fuel : ℕ} {w : Way} {todo : List Way} {found : Ways}

@[simp]
theorem follow_nil : follow P text k fuel [] found = found := by cases fuel <;> rfl

/-- A way that takes a character waits. -/
theorem follow_take {s : CharSet} {next : ℕ} (hm : found.met[w.step]? = some false)
    (hs : P.steps[w.step]? = some (.take s next)) :
    follow P text k (fuel + 1) (w :: todo) found =
      follow P text k fuel todo ⟨w :: found.ways, found.met.setIfInBounds w.step true⟩ := by
  simp [follow, hm, hs, Array.getD_eq_getD_getElem?]

/-- A way that accepts waits. -/
theorem follow_accept (hm : found.met[w.step]? = some false) (hs : P.steps[w.step]? = some .accept) :
    follow P text k (fuel + 1) (w :: todo) found =
      follow P text k fuel todo ⟨w :: found.ways, found.met.setIfInBounds w.step true⟩ := by
  simp [follow, hm, hs, Array.getD_eq_getD_getElem?]

/-- A way that notes its place goes on. -/
theorem follow_note {slot next : ℕ} (hm : found.met[w.step]? = some false)
    (hs : P.steps[w.step]? = some (.note slot next)) :
    follow P text k (fuel + 1) (w :: todo) found =
      follow P text k fuel (⟨next, w.slots.setIfInBounds slot (some k)⟩ :: todo)
        ⟨found.ways, found.met.setIfInBounds w.step true⟩ := by
  simp [follow, hm, hs, Array.getD_eq_getD_getElem?]

/-- Once something has matched and no ways are left, that is the match. -/
theorem runFrom_matched {slots : Array (Option ℕ)} {left : ℕ} :
    runFrom P text k (Ways.none P) (some slots) left = some slots := by
  cases left with
  | zero => rfl
  | succ left => simp [runFrom, Ways.none]

end Follow

/-! ## Matches that have begun -/

/-- A match of a text that has begun: the place where it starts and the characters left to take. -/
structure Begun where
  start : ℕ
  left : List Char

namespace Begun

/-- The way at place `k` that goes on with a match; with nothing left to take it accepts. -/
def way (k : ℕ) : Begun → Way
  | ⟨i, []⟩ => ⟨0, #[some i, some k]⟩
  | ⟨i, _ :: rest⟩ => ⟨rest.length + 2, #[some i, none]⟩

/-- Goes over one character, if it is the next one to take. -/
def over? (c : Char) : Begun → Option Begun
  | ⟨i, d :: rest⟩ => if d = c then some ⟨i, rest⟩ else none
  | ⟨_, []⟩ => none

/-- Where the first of some matches starts that the text ahead completes. -/
def completed? : List Begun → List Char → Option ℕ
  | [], _ => none
  | b :: begun, ahead => if Text.startsWith b.left ahead then some b.start else completed? begun ahead

variable {c : Char} {b : Begun} {begun : List Begun} {ahead p : List Char} {k : ℕ}

theorem over?_eq_some_iff {b' : Begun} : b.over? c = some b' ↔ b = ⟨b'.start, c :: b'.left⟩ := by
  obtain ⟨i, _ | ⟨d, rest⟩⟩ := b
  · simp [over?]
  · obtain ⟨j, left⟩ := b'
    simp only [over?, Option.ite_none_right_eq_some, Option.some.injEq, Begun.mk.injEq, List.cons.injEq]
    exact and_left_comm

theorem completed?_of_nil (hb : b.left = []) : completed? (b :: begun) ahead = some b.start := by
  have hs : Text.startsWith b.left ahead = true := by rw [hb]; rfl
  rw [completed?, if_pos hs]

theorem completed?_nil (h : ∀ b ∈ begun, b.left ≠ []) : completed? begun [] = none := by
  induction begun with
  | nil => rfl
  | cons b begun ih =>
    have hb : ¬ Text.startsWith b.left [] := by
      rw [Text.startsWith, List.isPrefixOf_iff_prefix, List.prefix_nil]
      exact h b List.mem_cons_self
    rw [completed?, if_neg hb]
    exact ih fun b hb => h b (List.mem_cons_of_mem _ hb)

/-- What a text completes, its rest completes once the first character has been gone over. -/
theorem completed?_cons (h : ∀ b ∈ begun, b.left ≠ []) :
    completed? begun (c :: ahead) = completed? (begun.filterMap (over? c)) ahead := by
  induction begun with
  | nil => rfl
  | cons b begun ih =>
    have hrest := ih fun b hb => h b (List.mem_cons_of_mem _ hb)
    obtain ⟨i, _ | ⟨d, rest⟩⟩ := b
    · exact absurd rfl (h _ List.mem_cons_self)
    · have hs : Text.startsWith (d :: rest) (c :: ahead) = (d == c && Text.startsWith rest ahead) := rfl
      rw [completed?, hs, hrest]
      by_cases hd : d = c
      · have hover : over? c ⟨i, d :: rest⟩ = some ⟨i, rest⟩ := if_pos hd
        rw [List.filterMap_cons_some hover, completed?]
        simp [hd]
      · have hover : over? c ⟨i, d :: rest⟩ = none := if_neg hd
        rw [List.filterMap_cons_none hover]
        simp [hd]

/-- The match that begins last is tried last. -/
theorem completed?_append : completed? (begun ++ [b]) ahead =
    (completed? begun ahead <|> if Text.startsWith b.left ahead then some b.start else none) := by
  induction begun with
  | nil => rfl
  | cons d begun ih =>
    rw [List.cons_append, completed?, completed?, ih]
    split
    · rfl
    · rfl

end Begun

/-! ## What waits at a place -/

/-- Matches of `p` that have begun before place `k`, none with as much left to take as a later one. -/
structure Ranked (p : List Char) (k : ℕ) (begun : List Begun) : Prop where
  part : ∀ b ∈ begun, b.left <:+ p ∧ b.start + p.length = k + b.left.length
  sorted : begun.Pairwise fun b d => b.left.length < d.left.length

/-- The ways at place `k` are those of some matches, and the steps further from the end have not been met. -/
structure Waits (p : List Char) (k : ℕ) (begun : List Begun) (found : Ways) : Prop where
  ranked : Ranked p k begun
  ways : found.ways = (begun.map (Begun.way k)).reverse
  fresh : ∀ j < p.length + 3, (∀ b ∈ begun, b.left.length + 2 ≤ j) → found.met[j]? = some false

variable {P : Program} {p : List Char} {text : Array Char} {c : Char} {k : ℕ} {b : Begun} {begun moved : List Begun}
  {found : Ways}

theorem Ranked.tail (h : Ranked p k (b :: begun)) : Ranked p k begun where
  part d hd := h.part d (List.mem_cons_of_mem _ hd)
  sorted := h.sorted.tail

theorem Ranked.append (h : Ranked p k begun) (hb : b.left <:+ p) (hstart : b.start + p.length = k + b.left.length)
    (hlast : ∀ d ∈ begun, d.left.length < b.left.length) : Ranked p k (begun ++ [b]) := by
  constructor
  · intro d hd
    rcases List.mem_append.1 hd with hd | hd
    · exact h.part d hd
    · rw [List.mem_singleton.1 hd]
      exact ⟨hb, hstart⟩
  · rw [List.pairwise_append]
    refine ⟨h.sorted, List.pairwise_singleton _ _, fun d hd e he => ?_⟩
    rw [List.mem_singleton.1 he]
    exact hlast d hd

/-- If the first match has something left to take, all have. -/
theorem Ranked.ne_nil (h : Ranked p k (b :: begun)) (hb : b.left ≠ []) : ∀ d ∈ b :: begun, d.left ≠ [] := by
  intro d hd
  rcases List.mem_cons.1 hd with rfl | hd
  · exact hb
  · have hlt := (List.pairwise_cons.1 h.sorted).1 d hd
    exact List.ne_nil_of_length_pos (Nat.zero_lt_of_lt hlt)

theorem waits_none (hP : P.IsLiteral p) : Waits p k [] (Ways.none P) where
  ranked := ⟨nofun, .nil⟩
  ways := rfl
  fresh j hj _ := by rw [Ways.none, hP.size, Array.getElem?_replicate, if_pos hj]

/-- Nothing has been met at the steps for more than the matches have left to take. -/
theorem Waits.fresh_step (h : Waits p k begun found) {n : ℕ} (hn : n ≤ p.length)
    (hlast : ∀ d ∈ begun, d.left.length < n) :
    found.met[n + 1]? = some false ∧ (n = 0 → found.met[0]? = some false) := by
  constructor
  · refine h.fresh (n + 1) (by omega) fun d hd => ?_
    have hd := hlast d hd
    omega
  · rintro rfl
    refine h.fresh 0 (by omega) fun d hd => ?_
    exact absurd (hlast d hd) (Nat.not_lt_zero _)

/-- A match that has begun waits at the step for what it has left to take. -/
theorem follow_begun (b : Begun) (found : Ways) (text : Array Char) (k fuel : ℕ) (hP : P.IsLiteral p)
    (hb : b.left <:+ p) (hmet : found.met[b.left.length + 1]? = some false)
    (hzero : b.left.length = 0 → found.met[0]? = some false) : ∃ met,
    follow P text k (fuel + 2) [⟨b.left.length + 1, #[some b.start, none]⟩] found =
        ⟨b.way k :: found.ways, met⟩ ∧
      ∀ j, b.left.length + 2 ≤ j → met[j]? = found.met[j]? := by
  obtain ⟨i, _ | ⟨c, rest⟩⟩ := b
  · have hz : (found.met.setIfInBounds 1 true)[0]? = some false := by
      rw [Array.getElem?_setIfInBounds_ne (by decide), hzero rfl]
    refine ⟨(found.met.setIfInBounds 1 true).setIfInBounds 0 true, ?_, fun j hj => ?_⟩
    · rw [follow_note hmet hP.stop, follow_accept hz hP.accept, follow_nil]
      rfl
    · have hj : 2 ≤ j := hj
      rw [Array.getElem?_setIfInBounds_ne (by omega), Array.getElem?_setIfInBounds_ne (by omega)]
  · refine ⟨found.met.setIfInBounds (rest.length + 2) true, ?_, fun j hj => ?_⟩
    · rw [follow_take hmet (hP.take c rest hb), follow_nil]
      rfl
    · have hj : rest.length + 3 ≤ j := hj
      rw [Array.getElem?_setIfInBounds_ne (by omega)]

/-- A match with more left to take than the others waits behind them. -/
theorem Waits.add (text : Array Char) (hP : P.IsLiteral p) (h : Waits p k begun found) (hb : b.left <:+ p)
    (hstart : b.start + p.length = k + b.left.length) (hlast : ∀ d ∈ begun, d.left.length < b.left.length) :
    Waits p k (begun ++ [b]) (found.add P text k ⟨b.left.length + 1, #[some b.start, none]⟩) := by
  obtain ⟨hmet, hzero⟩ := h.fresh_step hb.length_le hlast
  obtain ⟨met, hfollow, hkeep⟩ := follow_begun b found text k (2 * P.steps.size) hP hb hmet hzero
  rw [Ways.add, hfollow]
  refine ⟨h.ranked.append hb hstart hlast, ?_, fun j hj hbeyond => ?_⟩
  · rw [List.map_append, List.reverse_append, ← h.ways]
    rfl
  · rw [hkeep j (hbeyond b (by simp))]
    exact h.fresh j hj fun d hd => hbeyond d (List.mem_append_left _ hd)

/-- A match that begins at the place itself waits behind all others. -/
theorem Waits.ways_start (hP : P.IsLiteral p) (h : Waits p k begun found)
    (hlast : ∀ d ∈ begun, d.left.length < p.length) :
    (found.add P text k ⟨P.start, Array.replicate P.slots none⟩).ways =
      ((begun ++ [Begun.mk k p]).map (Begun.way k)).reverse := by
  obtain ⟨hmet, hzero⟩ := h.fresh_step (Nat.le_refl _) hlast
  have hstart : found.met[P.start]? = some false := by
    rw [hP.start]
    refine h.fresh _ (by omega) fun d hd => ?_
    have hd := hlast d hd
    omega
  have hkeep (j : ℕ) (hj : j < p.length + 2) :
      (found.met.setIfInBounds P.start true)[j]? = found.met[j]? := by
    rw [hP.start, Array.getElem?_setIfInBounds_ne (by omega)]
  have hnote : P.steps[P.start]? = some (.note 0 (p.length + 1)) := by rw [hP.start, hP.note]
  have hsize : 2 * P.steps.size + 2 = (2 * p.length + 5) + 2 + 1 := by rw [hP.size]; omega
  obtain ⟨met, hfollow, -⟩ := follow_begun ⟨k, p⟩ ⟨found.ways, found.met.setIfInBounds P.start true⟩ text k
    (2 * p.length + 5) hP (List.suffix_refl p) ((hkeep (p.length + 1) (by omega)).trans hmet)
    fun hnil => (hkeep 0 (by omega)).trans (hzero hnil)
  rw [Ways.add, hsize, follow_note hstart hnote, hP.slots, List.map_append, List.reverse_append, ← h.ways]
  exact congrArg Ways.ways hfollow

/-! ## Over one character -/

/-- A match that is complete is the result. -/
theorem advance_complete (hP : P.IsLiteral p) (i : ℕ) :
    advance P text k ((Begun.mk i [] :: begun).map (Begun.way k)) found = (found, some #[some i, some k]) := by
  rw [List.map_cons, advance]
  simp only [Begun.way, hP.accept]

/-- At the end of a text no match goes on. -/
theorem advance_end (found : Ways) (hP : P.IsLiteral p) (h : Ranked p k begun) (hne : ∀ b ∈ begun, b.left ≠ [])
    (hend : text[k]? = none) : advance P text k (begun.map (Begun.way k)) found = (found, none) := by
  induction begun with
  | nil => rfl
  | cons b begun ih =>
    have hrest := ih h.tail fun d hd => hne d (List.mem_cons_of_mem _ hd)
    obtain ⟨i, _ | ⟨d, rest⟩⟩ := b
    · exact absurd rfl (hne _ List.mem_cons_self)
    · have htake := hP.take d rest (h.part _ List.mem_cons_self).1
      rw [List.map_cons, advance]
      simp only [Begun.way, htake, hend, hrest]

/-- Where nothing is complete, the matches that take the next character go on. -/
theorem advance_begun (hP : P.IsLiteral p) (h : Ranked p k begun) (hne : ∀ b ∈ begun, b.left ≠ [])
    (hc : text[k]? = some c) (hmoved : Waits p (k + 1) moved found)
    (hlast : ∀ d ∈ moved, ∀ b ∈ begun, d.left.length + 1 < b.left.length) :
    ∃ found', advance P text k (begun.map (Begun.way k)) found = (found', none) ∧
      Waits p (k + 1) (moved ++ begun.filterMap (Begun.over? c)) found' := by
  induction begun generalizing moved found with
  | nil =>
    refine ⟨found, rfl, ?_⟩
    simpa using hmoved
  | cons b begun ih =>
    have hne' : ∀ b ∈ begun, b.left ≠ [] := fun d hd => hne d (List.mem_cons_of_mem _ hd)
    have hlast' : ∀ d ∈ moved, ∀ b ∈ begun, d.left.length + 1 < b.left.length :=
      fun e he b hb => hlast e he b (List.mem_cons_of_mem _ hb)
    obtain ⟨i, _ | ⟨d, rest⟩⟩ := b
    · exact absurd rfl (hne _ List.mem_cons_self)
    · obtain ⟨hd, hstart⟩ := h.part _ List.mem_cons_self
      have htake := hP.take d rest hd
      rw [List.map_cons, advance]
      simp only [Begun.way, htake, hc, CharSet.contains_single]
      by_cases hdc : d = c
      · have hover : Begun.over? c ⟨i, d :: rest⟩ = some ⟨i, rest⟩ := if_pos hdc
        have hnext : i + p.length = k + 1 + rest.length := by
          simp only [List.length_cons] at hstart
          omega
        have hadd := hmoved.add (b := ⟨i, rest⟩) text hP ((List.suffix_cons d rest).trans hd) hnext fun e he =>
          Nat.lt_of_succ_lt_succ (hlast e he _ List.mem_cons_self)
        have hlast'' : ∀ e ∈ moved ++ [⟨i, rest⟩], ∀ b ∈ begun, e.left.length + 1 < b.left.length := by
          intro e he b hb
          rcases List.mem_append.1 he with he | he
          · exact hlast' e he b hb
          · rw [List.mem_singleton.1 he]
            exact (List.pairwise_cons.1 h.sorted).1 b hb
        obtain ⟨found', hadvance, hwaits⟩ := ih h.tail hne' hadd hlast''
        rw [if_pos hdc, List.filterMap_cons_some hover]
        refine ⟨found', hadvance, ?_⟩
        simpa using hwaits
      · have hover : Begun.over? c ⟨i, d :: rest⟩ = none := if_neg hdc
        rw [if_neg hdc, List.filterMap_cons_none hover]
        exact ih h.tail hne' hmoved hlast'

/-! ## A whole run -/

/-- The next match to begin is the last one of those at a place. -/
theorem Ranked.append_start (h : Ranked p k begun) (hlast : ∀ d ∈ begun, d.left.length < p.length) :
    Ranked p k (begun ++ [Begun.mk k p]) := h.append (List.suffix_refl p) rfl hlast

/-- The first place where a text stands is the start, or it comes after the first character. -/
theorem first?_eq (p ahead : List Char) :
    Text.first? p ahead =
      ((if Text.startsWith p ahead then some 0 else none) <|> (ahead.tail?.bind (Text.first? p)).map (· + 1)) := by
  cases ahead with
  | nil => cases p <;> rfl
  | cons c ahead =>
    rw [Text.first?]
    split
    · rfl
    · rfl

/-- The first match that a text completes is one of those that wait at a place, or begins later. -/
theorem completed?_or_first? (begun : List Begun) (p ahead : List Char) (k : ℕ) :
    (Begun.completed? begun ahead <|> (Text.first? p ahead).map (· + k)) =
      (Begun.completed? (begun ++ [Begun.mk k p]) ahead <|> (ahead.tail?.bind (Text.first? p)).map (· + (k + 1))) := by
  rw [Begun.completed?_append, first?_eq]
  cases Begun.completed? begun ahead with
  | some i => rfl
  | none =>
    by_cases hp : Text.startsWith p ahead = true
    · simp [hp]
    · simp [hp, Function.comp_def, Nat.add_comm, Nat.add_left_comm]

theorem runFrom_succ (hP : P.IsLiteral p) (h : Waits p k begun found)
    (hlast : ∀ d ∈ begun, d.left.length < p.length) (left : ℕ) {moved : Ways}
    {accepted : Option (Array (Option ℕ))}
    (hadvance : advance P text k ((begun ++ [Begun.mk k p]).map (Begun.way k)) (Ways.none P) = (moved, accepted)) :
    runFrom P text k found none (left + 1) = runFrom P text (k + 1) moved accepted left := by
  rw [runFrom]
  simp only [Option.isNone_none, if_true, h.ways_start hP hlast, List.reverse_reverse, hadvance, Option.isSome_none,
    Bool.and_false, Bool.false_eq_true, if_false, Option.orElse_eq_orElse, Option.orElse_eq_or, Option.or_none]

/-- Either the first match is complete and is the result, or all matches have something left to take. -/
theorem runFrom_complete_or (hP : P.IsLiteral p) (h : Waits p k begun found)
    (hlast : ∀ d ∈ begun, d.left.length < p.length) :
    (∀ ahead left, runFrom P text k found none (left + 1) =
      (Begun.completed? begun ahead <|> (Text.first? p ahead).map (· + k)).map fun i =>
        #[some i, some (i + p.length)]) ∨
    ∀ b ∈ begun ++ [Begun.mk k p], b.left ≠ [] := by
  obtain ⟨b, rest, hall⟩ : ∃ b rest, begun ++ [Begun.mk k p] = b :: rest :=
    List.exists_cons_of_ne_nil (List.concat_ne_nil _ _)
  have hranked := h.ranked.append_start hlast
  rw [hall] at hranked ⊢
  obtain ⟨i, _ | ⟨d, left⟩⟩ := b
  · have hplace : i + p.length = k := (hranked.part _ List.mem_cons_self).2
    have hadvance : advance P text k ((Begun.mk i [] :: rest).map (Begun.way k)) (Ways.none P) =
      (Ways.none P, some #[some i, some k]) := advance_complete hP i
    rw [← hall] at hadvance
    refine .inl fun ahead left => ?_
    rw [completed?_or_first?, hall, Begun.completed?_of_nil rfl, runFrom_succ hP h hlast left hadvance,
      runFrom_matched, ← hplace]
    rfl
  · exact .inr (hranked.ne_nil (List.cons_ne_nil d left))

/-- **A program of a text finds the first match that the text ahead completes, or else the next one to begin.** -/
theorem runFrom_literal {t : List Char} (hP : P.IsLiteral p) (ahead : List Char) (hk : t.drop k = ahead)
    (h : Waits p k begun found) (hlast : ∀ d ∈ begun, d.left.length < p.length) :
    runFrom P t.toArray k found none (ahead.length + 1) =
      (Begun.completed? begun ahead <|> (Text.first? p ahead).map (· + k)).map fun i =>
        #[some i, some (i + p.length)] := by
  induction ahead generalizing k begun found with
  | nil =>
    rcases runFrom_complete_or hP h hlast with hdone | hne
    · exact hdone _ _
    · have hend : t.toArray[k]? = none := by
        rw [List.getElem?_toArray, List.getElem?_eq_none]
        exact List.drop_eq_nil_iff.1 hk
      have hadvance := advance_end (Ways.none P) hP (h.ranked.append_start hlast) hne hend
      rw [completed?_or_first?, runFrom_succ hP h hlast _ hadvance, Begun.completed?_nil hne]
      rfl
  | cons c ahead ih =>
    rcases runFrom_complete_or hP h hlast with hdone | hne
    · exact hdone _ _
    · have hranked := h.ranked.append_start hlast
      have hc : t.toArray[k]? = some c := by
        rw [List.getElem?_toArray, ← List.head?_drop, hk, List.head?_cons]
      have hk' : t.drop (k + 1) = ahead := by
        rw [← List.tail_drop, hk, List.tail_cons]
      obtain ⟨found', hadvance, hwaits⟩ := advance_begun hP hranked hne hc (waits_none hP) nofun
      have hlast' : ∀ d ∈ (begun ++ [Begun.mk k p]).filterMap (Begun.over? c), d.left.length < p.length := by
        intro d hd
        obtain ⟨e, he, hover⟩ := List.mem_filterMap.1 hd
        have hle := (hranked.part e he).1.length_le
        rw [Begun.over?_eq_some_iff.1 hover] at hle
        exact hle
      rw [completed?_or_first?, List.length_cons, runFrom_succ hP h hlast _ hadvance, ih hk' hwaits hlast',
        List.nil_append, Begun.completed?_cons hne]
      rfl

/-- The match of a text that starts at a place. -/
def literalMatch (p : List Char) (i : ℕ) : Match := ⟨i, i + p.length, [some (i, i + p.length)]⟩

@[simp]
theorem literalMatch_start (p : List Char) (i : ℕ) : (literalMatch p i).start = i := rfl

@[simp]
theorem literalMatch_stop (p : List Char) (i : ℕ) : (literalMatch p i).stop = i + p.length := rfl

/-- **A program of a text finds where the text stands first.** -/
theorem find?_literal (hP : P.IsLiteral p) {t : List Char} (hk : k ≤ t.length) :
    P.find? t.toArray k = (Text.firstFrom? p t k).map (literalMatch p) := by
  have hleft : t.toArray.size + 1 - k = (t.drop k).length + 1 := by
    rw [List.size_toArray, List.length_drop]
    omega
  have hrun := runFrom_literal hP (t.drop k) rfl (waits_none hP) nofun
  rw [find?, if_neg (by simpa using hk), hleft, hrun, Text.firstFrom?, hP.slots]
  cases Text.first? p (t.drop k) with
  | none => rfl
  | some i => rfl

end Program
end GatedFormula
