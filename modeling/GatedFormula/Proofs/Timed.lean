/-
  Laws of timed results.
  - Results keep their times when they are changed at once (`map`) and when more comes after them (`after`).
  - What parts side by side have together: all results at the latest time (`join_of_ok`); of eager parts the
    earliest failure, the leftmost one of several at a time (`joinEager_of_error`); of parts in order the
    first failure in order, when it and all before it are there (`joinInOrder_of_error`).
  - `Timed.notBefore` holds a result back to a time.
-/
import GatedFormula.Evaluation.Timeline

namespace GatedFormula.Timed

variable {α β γ δ : Type}

/-! ## Changes at once -/

theorem map_map (g : α → β) (h : β → γ) (x : Timed α) : (x.map g).map h = x.map fun a => h (g a) := by
  obtain ⟨t, _ | a⟩ := x <;> rfl

theorem after_map (g : α → β) (k : Nat → β → Timed γ) (x : Timed α) :
    (x.map g).after k = x.after fun t a => k t (g a) := by
  obtain ⟨t, _ | a⟩ := x <;> rfl

theorem map_after (k : Nat → α → Timed β) (g : β → γ) (x : Timed α) :
    (x.after k).map g = x.after fun t a => (k t a).map g := by
  obtain ⟨t, _ | a⟩ := x <;> rfl

theorem after_ok (g : α → β) (x : Timed α) : (x.after fun t a => ⟨t, .ok (g a)⟩) = x.map g := by
  obtain ⟨t, _ | a⟩ := x <;> rfl

theorem pair_map_left (g : α → γ) (x : Timed α) (y : Timed β) :
    pair (x.map g) y = (pair x y).map fun (a, b) => (g a, b) := by
  obtain ⟨t, f | a⟩ := x <;> obtain ⟨u, f' | b⟩ := y
  · by_cases htu : t ≤ u <;> simp [pair, map, Except.map, htu]
  · rfl
  · rfl
  · rfl

theorem pair_map_right (h : β → δ) (x : Timed α) (y : Timed β) :
    pair x (y.map h) = (pair x y).map fun (a, b) => (a, h b) := by
  obtain ⟨t, f | a⟩ := x <;> obtain ⟨u, f' | b⟩ := y
  · by_cases htu : t ≤ u <;> simp [pair, map, Except.map, htu]
  · rfl
  · rfl
  · rfl

theorem pair_map (g : α → γ) (h : β → δ) (x : Timed α) (y : Timed β) :
    pair (x.map g) (y.map h) = (pair x y).map fun (a, b) => (g a, h b) := by
  rw [pair_map_left, pair_map_right, map_map]

theorem join_map (joint : Joint) (start : Nat) (g : α → β) (xs : List (Timed α)) :
    join joint start (xs.map (map g)) = (join joint start xs).map (List.map g) := by
  cases joint with
  | eager =>
    induction xs with
    | nil => rfl
    | cons x rest ih =>
      simp only [join, List.map_cons, joinEager] at ih ⊢
      rw [ih, pair_map, map_map, map_map]
      rfl
  | inOrder =>
    induction xs with
    | nil => rfl
    | cons x rest ih =>
      simp only [join, List.map_cons, joinInOrder] at ih ⊢
      rw [ih, after_map, map_after]
      congr 1
      funext t a
      obtain ⟨u, _ | as⟩ := joinInOrder start rest <;> rfl

/-! ## Parts side by side -/

theorem pair_of_left {x : Timed α} {y : Timed β} {f : Fault} (hx : x.result = .error f)
    (hy : ∀ g, y.result = .error g → x.time ≤ y.time) : pair x y = ⟨x.time, .error f⟩ := by
  unfold pair
  cases h : y.result with
  | ok b => simp [hx]
  | error g => simp [hx, hy g h]

theorem pair_of_right {x : Timed α} {y : Timed β} {g : Fault} (hy : y.result = .error g)
    (hx : ∀ f, x.result = .error f → y.time < x.time) : pair x y = ⟨y.time, .error g⟩ := by
  unfold pair
  cases h : x.result with
  | ok a => simp [hy]
  | error f => simp [hy, Nat.not_le.2 (hx f h)]

theorem pair_cases (x : Timed α) (y : Timed β) :
    (∃ a b, x.result = .ok a ∧ y.result = .ok b ∧ pair x y = ⟨max x.time y.time, .ok (a, b)⟩) ∨
      (∃ f, x.result = .error f ∧ pair x y = ⟨x.time, .error f⟩) ∨
        ∃ f, y.result = .error f ∧ pair x y = ⟨y.time, .error f⟩ := by
  obtain ⟨t, f | a⟩ := x <;> obtain ⟨u, g | b⟩ := y
  · by_cases htu : t ≤ u
    · exact .inr (.inl ⟨f, rfl, by simp [pair, htu]⟩)
    · exact .inr (.inr ⟨g, rfl, by simp [pair, htu]⟩)
  · exact .inr (.inl ⟨f, rfl, rfl⟩)
  · exact .inr (.inr ⟨g, rfl, rfl⟩)
  · exact .inl ⟨a, b, rfl, rfl, rfl⟩

/-- Eager parts have all their results together, or the failure of one of them at its time. -/
theorem joinEager_cases (start : Nat) (xs : List (Timed α)) :
    (∃ as : List α, xs.map Timed.result = as.map .ok ∧ (joinEager start xs).result = .ok as) ∨
      ∃ x ∈ xs, ∃ f, x.result = .error f ∧ joinEager start xs = ⟨x.time, .error f⟩ := by
  induction xs with
  | nil => exact .inl ⟨[], rfl, rfl⟩
  | cons x rest ih =>
    rw [joinEager]
    rcases pair_cases x (joinEager start rest) with ⟨a, as, hx, hr, hp⟩ | ⟨f, hx, hp⟩ | ⟨f, hr, hp⟩
    · rw [hp]
      rcases ih with ⟨as', hs, hr'⟩ | ⟨y, -, f, -, hy⟩
      · obtain rfl := Except.ok.inj (hr.symm.trans hr')
        exact .inl ⟨a :: as, by rw [List.map_cons, hx, hs, List.map_cons], rfl⟩
      · rw [hy] at hr
        cases hr
    · rw [hp]
      exact .inr ⟨x, List.mem_cons_self, f, hx, rfl⟩
    · rw [hp]
      rcases ih with ⟨as, -, hr'⟩ | ⟨y, hy, g, hg, he⟩
      · cases hr.symm.trans hr'
      · rw [he] at hr ⊢
        obtain rfl := Except.error.inj hr
        exact .inr ⟨y, List.mem_cons_of_mem _ hy, g, hg, rfl⟩

/-- A failure of eager parts is the failure of one of them, at its time. -/
theorem exists_of_joinEager {start : Nat} {xs : List (Timed α)} {f : Fault}
    (h : (joinEager start xs).result = .error f) :
    ∃ x ∈ xs, x.result = .error f ∧ (joinEager start xs).time = x.time := by
  rcases joinEager_cases start xs with ⟨as, -, hr⟩ | ⟨x, hx, g, hg, he⟩
  · cases hr.symm.trans h
  · rw [he] at h ⊢
    obtain rfl := Except.error.inj h
    exact ⟨x, hx, hg, rfl⟩

/-- **Parts that all have results are there at the latest time.** -/
theorem join_of_ok {joint : Joint} {start : Nat} {xs : List (Timed α)} {as : List α}
    (h : xs.map Timed.result = as.map .ok) :
    join joint start xs = ⟨(xs.map Timed.time).foldr max start, .ok as⟩ := by
  induction xs generalizing as with
  | nil =>
    cases as with
    | nil => cases joint <;> rfl
    | cons a as => cases h
  | cons x rest ih =>
    cases as with
    | nil => cases h
    | cons a as =>
      obtain ⟨t, r⟩ := x
      obtain ⟨hx, hr⟩ := List.cons.inj h
      obtain rfl : r = .ok a := hx
      have hrest := ih hr
      cases joint with
      | eager =>
        simp only [join] at hrest
        simp only [join, joinEager, hrest, pair, map, Except.map, List.map_cons, List.foldr_cons]
      | inOrder =>
        simp only [join] at hrest
        simp only [join, joinInOrder, hrest, after, Except.map, List.map_cons, List.foldr_cons]

/-- A part next to nothing that takes longer. -/
theorem pair_of_le {start : Nat} {y : Timed β} (h : start ≤ y.time) (b : α) :
    pair y ⟨start, .ok b⟩ = y.map fun a => (a, b) := by
  obtain ⟨t, f | a⟩ := y
  · rfl
  · simp only [pair, map, Except.map, Nat.max_eq_left h]

/-- Two eager parts are a pair. -/
theorem joinEager_two {start : Nat} {x y : Timed α} (h : start ≤ y.time) :
    joinEager start [x, y] = (pair x y).map fun (a, b) => [a, b] := by
  rw [joinEager, joinEager, joinEager, pair_of_le h, map_map, pair_map_right, map_map]

/-! ## Held back -/

/-- The result, but no sooner than at a time. -/
def notBefore (t : Nat) (x : Timed α) : Timed α := ⟨max t x.time, x.result⟩

theorem notBefore_of_le {t : Nat} {x : Timed α} (h : t ≤ x.time) : x.notBefore t = x := by
  rw [notBefore, Nat.max_eq_right h]

theorem map_notBefore (t : Nat) (g : α → β) (x : Timed α) : (x.notBefore t).map g = (x.map g).notBefore t :=
  rfl

theorem pair_notBefore {t : Nat} {x : Timed α} {y : Timed β} (hx : ∀ f, x.result = .error f → t ≤ x.time)
    (hy : ∀ f, y.result = .error f → t ≤ y.time) :
    pair (x.notBefore t) (y.notBefore t) = (pair x y).notBefore t := by
  obtain ⟨tx, f | a⟩ := x <;> obtain ⟨ty, g | b⟩ := y
  · rw [notBefore_of_le (hx f rfl), notBefore_of_le (hy g rfl), notBefore_of_le]
    have hx' : t ≤ tx := hx f rfl
    have hy' : t ≤ ty := hy g rfl
    simp only [pair]
    split
    · exact hx'
    · exact hy'
  · rfl
  · rfl
  · simp only [pair, notBefore]
    congr 1
    omega

/-- Eager parts that do not fail before a time can be held back to it one by one. -/
theorem joinEager_notBefore {start t : Nat} (hs : start ≤ t) {xs : List (Timed α)}
    (h : ∀ x ∈ xs, ∀ f, x.result = .error f → t ≤ x.time) :
    joinEager t (xs.map (notBefore t)) = (joinEager start xs).notBefore t := by
  induction xs with
  | nil => simp only [List.map_nil, joinEager, notBefore, Nat.max_eq_left hs]
  | cons x rest ih =>
    have hrest : ∀ f, (joinEager start rest).result = .error f → t ≤ (joinEager start rest).time := by
      intro f hf
      obtain ⟨y, hy, hyr, hyt⟩ := exists_of_joinEager hf
      rw [hyt]
      exact h y (List.mem_cons_of_mem _ hy) f hyr
    rw [List.map_cons, joinEager, ih fun y hy => h y (List.mem_cons_of_mem _ hy),
      pair_notBefore (h x List.mem_cons_self) hrest]
    rfl

/-- Parts in order can always be held back one by one. -/
theorem joinInOrder_notBefore {start t : Nat} (hs : start ≤ t) (xs : List (Timed α)) :
    joinInOrder t (xs.map (notBefore t)) = (joinInOrder start xs).notBefore t := by
  induction xs with
  | nil => simp only [List.map_nil, joinInOrder, notBefore, Nat.max_eq_left hs]
  | cons x rest ih =>
    obtain ⟨tx, f | a⟩ := x
    · rfl
    · simp only [List.map_cons, joinInOrder, ih, after, notBefore]
      congr 1
      omega

/-! ## Bounds -/

theorem le_foldr_max {t start : Nat} {ts : List Nat} (h : t ≤ start ∨ ∃ u ∈ ts, t ≤ u) :
    t ≤ ts.foldr max start := by
  induction ts with
  | nil => simpa using h
  | cons u rest ih =>
    rw [List.foldr_cons]
    rcases h with h | ⟨v, hv, hle⟩
    · have := ih (.inl h)
      omega
    · rcases List.mem_cons.1 hv with rfl | hv
      · omega
      · have := ih (.inr ⟨v, hv, hle⟩)
        omega

/-- Eager parts are not there before a time if none fails before it and one is not there before it. -/
theorem le_joinEager {t start : Nat} {xs : List (Timed α)}
    (he : ∀ x ∈ xs, ∀ f, x.result = .error f → t ≤ x.time) (h : t ≤ start ∨ ∃ x ∈ xs, t ≤ x.time) :
    t ≤ (joinEager start xs).time := by
  rcases joinEager_cases start xs with ⟨as, hs, -⟩ | ⟨x, hx, f, hf, hj⟩
  · have hj : join .eager start xs = _ := join_of_ok hs
    change _ ≤ (join .eager start xs).time
    rw [hj]
    refine le_foldr_max (h.imp_right ?_)
    rintro ⟨x, hx, hle⟩
    exact ⟨x.time, List.mem_map_of_mem hx, hle⟩
  · rw [hj]
    exact he x hx f hf

/-- Parts in order are not there before a time if one is not there before it and all before that one have
results. -/
theorem le_joinInOrder {t start : Nat} {before rest : List (Timed α)} {as : List α} {x : Timed α}
    (hb : before.map Timed.result = as.map .ok) (hx : t ≤ x.time) :
    t ≤ (joinInOrder start (before ++ x :: rest)).time := by
  induction before generalizing as with
  | nil =>
    obtain ⟨tx, f | a⟩ := x
    · exact hx
    · simp only [List.nil_append, joinInOrder, after]
      exact Nat.le_trans hx (Nat.le_max_left ..)
  | cons y before ih =>
    cases as with
    | nil => cases hb
    | cons a as =>
      obtain ⟨ty, r⟩ := y
      obtain ⟨hy, hbs⟩ := List.cons.inj hb
      obtain rfl : r = .ok a := hy
      simp only [List.cons_append, joinInOrder, after]
      exact Nat.le_trans (ih hbs) (Nat.le_max_right ..)

/-- Parts that all come after their start are there together after it. -/
theorem le_join (joint : Joint) {start : Nat} {xs : List (Timed α)} (h : ∀ x ∈ xs, start ≤ x.time) :
    start ≤ (join joint start xs).time := by
  cases joint with
  | eager => exact le_joinEager (fun x hx _ _ => h x hx) (.inl (Nat.le_refl _))
  | inOrder =>
    cases xs with
    | nil => exact Nat.le_refl _
    | cons x rest =>
      have hb : ([] : List (Timed α)).map Timed.result = ([] : List α).map .ok := rfl
      exact le_joinInOrder hb (h x List.mem_cons_self)

end GatedFormula.Timed
