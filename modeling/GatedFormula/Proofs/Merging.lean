/-
  Merging maps that keep the order in which their names came.
  - `OrderedMap.IsMerge`: the names of the first map stand before the new ones of the second, and the second map decides
    what a name stands for. Extending a map gives this one (`isMerge_extend`).
  - A map is known by its names in order and what each stands for (`ext_get?`), from which the laws of extending follow.
  Main statement: `extend_merges`.
-/
import GatedFormula.Context
import GatedFormula.Signature.Basic
import Mathlib.Data.List.Basic

namespace GatedFormula

namespace OrderedMap

variable {α : Type} {a b c m : OrderedMap α} {entries : List (String × α)} {k : String}

/-- The map holds the names of the first map and then the new ones of the second, both in order and none twice. What a
name stands for is taken from the second map, or else from the first. -/
structure IsMerge (a b m : OrderedMap α) : Prop where
  nodup : m.keys.Nodup
  keys : m.keys = a.keys ++ b.keys.filter (· ∉ a.keys)
  get? : ∀ k, m.get? k = (b.get? k).or (a.get? k)

/-! ## Names and what they stand for -/

theorem get?_eq_none_iff : m.get? k = none ↔ k ∉ m.keys := by
  rw [OrderedMap.get?, List.lookup_eq_none_iff]
  constructor
  · intro h hk
    obtain ⟨e, he, rfl⟩ := List.mem_map.1 hk
    exact bne_iff_ne.1 (h e he) rfl
  · rintro h e he
    exact bne_iff_ne.2 fun hk => h (hk ▸ List.mem_map_of_mem he)

/-- The entries of a map are its names in order, each with what it stands for. -/
theorem entries_eq (m : OrderedMap α) : m.entries = m.keys.filterMap fun k => (m.get? k).map (k, ·) := by
  have hself : ∀ e ∈ m.entries, (m.get? e.1).map (e.1, ·) = some e := by
    rintro ⟨k, v⟩ he
    rw [m.get?_of_mem he, Option.map_some]
  rw [OrderedMap.keys, List.filterMap_map]
  exact ((List.filterMap_congr hself).trans List.filterMap_some).symm

/-- **A map is known by its names in order and what each stands for.** -/
theorem ext_get? (hkeys : a.keys = b.keys) (hget : ∀ k, a.get? k = b.get? k) : a = b := by
  have hentries : a.entries = b.entries := by
    rw [a.entries_eq, b.entries_eq, hkeys]
    simp only [hget]
  obtain ⟨as, _⟩ := a
  obtain rfl : as = b.entries := hentries
  rfl

/-- There is only one merge. -/
theorem IsMerge.unique {m' : OrderedMap α} (h : IsMerge a b m) (h' : IsMerge a b m') : m = m' :=
  ext_get? (h.keys.trans h'.keys.symm) fun k => (h.get? k).trans (h'.get? k).symm

/-! ## Inserting entries -/

theorem mem_keys_insert {v : α} {k' : String} : k' ∈ (m.insert k v).keys ↔ k' = k ∨ k' ∈ m.keys := by
  rw [OrderedMap.keys, OrderedMap.insert, keys_insertEntry]
  split
  · rename_i hk
    exact ⟨.inr, fun h => h.elim (fun he => he ▸ hk) id⟩
  · rw [List.mem_append, List.mem_singleton, or_comm]
    rfl

theorem keys_insert_cons (m : OrderedMap α) (k : String) (v : α) (names : List String) (h : k ∉ names) :
    (m.insert k v).keys ++ names.filter (· ∉ (m.insert k v).keys) =
      m.keys ++ (k :: names).filter (· ∉ m.keys) := by
  have hrest : names.filter (· ∉ (m.insert k v).keys) = names.filter (· ∉ m.keys) := by
    refine List.filter_congr fun k' hk' => ?_
    have hne : k' ≠ k := fun he => h (he ▸ hk')
    simp only [mem_keys_insert, hne, false_or]
  rw [hrest, OrderedMap.keys, OrderedMap.insert, keys_insertEntry]
  change (if k ∈ m.keys then m.keys else m.keys ++ [k]) ++ _ = _
  by_cases hk : k ∈ m.keys
  · rw [if_pos hk, List.filter_cons_of_neg (by simpa using hk)]
  · rw [if_neg hk, List.filter_cons_of_pos (by simpa using hk), List.append_assoc, List.singleton_append]

theorem get?_insert (m : OrderedMap α) (k : String) (v : α) (k' : String) :
    (m.insert k v).get? k' = if k' = k then some v else m.get? k' := by
  split
  · subst k'
    exact lookup_insertEntry_self k v m.entries
  · rename_i hne
    exact lookup_insertEntry_of_ne hne v m.entries

/-- After entries of different names are inserted, the new names stand at the end. -/
theorem keys_insertAll (m : OrderedMap α) (h : (entries.map Prod.fst).Nodup) :
    (m.insertAll entries).keys = m.keys ++ (entries.map Prod.fst).filter (· ∉ m.keys) := by
  induction entries generalizing m with
  | nil => rw [List.map_nil, List.filter_nil, List.append_nil]; rfl
  | cons e rest ih =>
    rw [List.map_cons, List.nodup_cons] at h
    calc (m.insertAll (e :: rest)).keys = ((m.insert e.1 e.2).insertAll rest).keys := rfl
      _ = (m.insert e.1 e.2).keys ++ (rest.map Prod.fst).filter (· ∉ (m.insert e.1 e.2).keys) := ih _ h.2
      _ = m.keys ++ ((e :: rest).map Prod.fst).filter (· ∉ m.keys) := keys_insert_cons m e.1 e.2 _ h.1

/-- After entries of different names are inserted, they decide what their names stand for. -/
theorem get?_insertAll (m : OrderedMap α) (h : (entries.map Prod.fst).Nodup) (k : String) :
    (m.insertAll entries).get? k = (entries.lookup k).or (m.get? k) := by
  induction entries generalizing m with
  | nil => rfl
  | cons e rest ih =>
    rw [List.map_cons, List.nodup_cons] at h
    have hstep : (m.insertAll (e :: rest)).get? k = (rest.lookup k).or ((m.insert e.1 e.2).get? k) := ih _ h.2
    rw [hstep, get?_insert, List.lookup_cons]
    by_cases hk : k = e.1
    · subst hk
      have hrest : rest.lookup e.1 = none := get?_eq_none_iff (m := ⟨rest, h.2⟩).2 h.1
      rw [if_pos rfl, hrest, beq_self_eq_true]
      rfl
    · rw [if_neg hk, beq_eq_false_iff_ne.2 hk]

/-! ## Extending -/

/-- **Extending a map merges it with the other one.** -/
theorem isMerge_extend (a b : OrderedMap α) : IsMerge a b (a.extend b) where
  nodup := (a.extend b).nodup
  keys := keys_insertAll a b.nodup
  get? := get?_insertAll a b.nodup

theorem mem_keys_extend : k ∈ (a.extend b).keys ↔ k ∈ a.keys ∨ k ∈ b.keys := by
  rw [(isMerge_extend a b).keys, List.mem_append, List.mem_filter, decide_eq_true_eq]
  tauto

theorem extend_empty (a : OrderedMap α) : a.extend empty = a := rfl

theorem empty_extend (a : OrderedMap α) : empty.extend a = a :=
  (isMerge_extend empty a).unique ⟨a.nodup, by simp [OrderedMap.keys, empty], fun k => (Option.or_none).symm⟩

/-- **Extending is associative**, in order and values. -/
theorem extend_assoc (a b c : OrderedMap α) : (a.extend b).extend c = a.extend (b.extend c) := by
  refine (isMerge_extend (a.extend b) c).unique ⟨OrderedMap.nodup _, ?_, fun k => ?_⟩
  · rw [(isMerge_extend a (b.extend c)).keys, (isMerge_extend b c).keys, (isMerge_extend a b).keys, List.filter_append,
      List.filter_filter, List.append_assoc]
    congr 2
    refine List.filter_congr fun k _ => ?_
    rw [← (isMerge_extend a b).keys, ← Bool.decide_and]
    simp only [mem_keys_extend, not_or]
  · rw [(isMerge_extend a (b.extend c)).get?, (isMerge_extend b c).get?, (isMerge_extend a b).get?, Option.or_assoc]

/-- Extending by the same map again changes nothing. -/
theorem extend_extend_self (a b : OrderedMap α) : (a.extend b).extend b = a.extend b := by
  refine (isMerge_extend (a.extend b) b).unique ⟨OrderedMap.nodup _, ?_, fun k => ?_⟩
  · have hnone : b.keys.filter (· ∉ (a.extend b).keys) = [] := by
      refine List.filter_eq_nil_iff.2 fun k hk => ?_
      simpa using mem_keys_extend.2 (.inr hk)
    rw [hnone, List.append_nil]
  · rw [(isMerge_extend a b).get?, ← Option.or_assoc, Option.or_self]

end OrderedMap

open OrderedMap

/-- **Extending merges.** The names that are there keep their places, new names follow in their order, and the later
map decides what a name stands for. It does not matter how several maps are grouped; the empty map adds nothing, on
either side, and to extend by the same map again changes nothing. So it is with contexts, which take a new identity,
and with tables of signatures. -/
theorem extend_merges :
    (∀ {α : Type} (a b c : OrderedMap α), IsMerge a b (a.extend b) ∧ (a.extend b).extend c = a.extend (b.extend c) ∧
      a.extend .empty = a ∧ OrderedMap.empty.extend a = a ∧ (a.extend b).extend b = a.extend b ∧ a.extend a = a) ∧
    (∀ (a b c : Context) (i j k : Place), IsMerge a.members b.members (a.extend i b).members ∧
      (∀ n, (a.extend i b).get? n = (b.get? n).or (a.get? n)) ∧
      (a.extend i b).extend j c = a.extend j (b.extend k c) ∧ a.extend i (.empty j) = { a with id := i } ∧
      (Context.empty j).extend i a = { a with id := i } ∧ (a.extend i b).extend j b = a.extend j b ∧
      a.extend i a = { a with id := i }) ∧
    ∀ a b c : SignatureTable, IsMerge a b (a.extend b) ∧ (a.extend b).extend c = a.extend (b.extend c) ∧
      a.extend .empty = a ∧ OrderedMap.empty.extend a = a ∧ (a.extend b).extend b = a.extend b ∧ a.extend a = a := by
  have hself {α : Type} (a : OrderedMap α) : a.extend a = a := by
    have h := extend_extend_self .empty a
    rwa [empty_extend] at h
  have hall {α : Type} (a b c : OrderedMap α) : IsMerge a b (a.extend b) ∧
      (a.extend b).extend c = a.extend (b.extend c) ∧ a.extend .empty = a ∧ OrderedMap.empty.extend a = a ∧
      (a.extend b).extend b = a.extend b ∧ a.extend a = a :=
    ⟨isMerge_extend a b, extend_assoc a b c, extend_empty a, empty_extend a, extend_extend_self a b, hself a⟩
  refine ⟨hall, fun a b c i j k => ?_, hall⟩
  obtain ⟨hmerge, hassoc, hright, hleft, hagain, hsame⟩ := hall a.members b.members c.members
  have hcontext {x y : OrderedMap Value} (h : x = y) (p : Place) : (⟨p, x⟩ : Context) = ⟨p, y⟩ := congrArg _ h
  exact ⟨hmerge, hmerge.get?, hcontext hassoc j, hcontext hright i, hcontext hleft i, hcontext hagain j,
    hcontext hsame i⟩

/-- A value is replaced where its name stands, and a new name comes at the end. -/
example : ((OrderedMap.ofList [("x", 1), ("y", 2)]).extend (.ofList [("z", 3), ("x", 4)])).entries =
    [("x", 4), ("y", 2), ("z", 3)] := by decide

end GatedFormula
