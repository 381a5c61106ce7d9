/-
  Maps that keep the order in which their keys came.
  - A map has no key twice.
  - `OrderedMap.insert` replaces the entry of a key where it stands and puts a new key at the end.
  - `OrderedMap.extend` inserts all entries of another map.
-/

namespace GatedFormula

/-- Entries of names, in the order in which the names came. -/
structure OrderedMap (α : Type) where
  entries : List (String × α)
  nodup : (entries.map Prod.fst).Nodup

namespace OrderedMap

variable {α : Type}

/-- Puts a value under a name: in place of the old one, or at the end. -/
def insertEntry (k : String) (v : α) : List (String × α) → List (String × α)
  | [] => [(k, v)]
  | (k', v') :: rest => if k' = k then (k, v) :: rest else (k', v') :: insertEntry k v rest

/-- The names after an insertion: the same ones, or one more at the end. -/
theorem keys_insertEntry (k : String) (v : α) (l : List (String × α)) :
    (insertEntry k v l).map Prod.fst =
      if k ∈ l.map Prod.fst then l.map Prod.fst else l.map Prod.fst ++ [k] := by
  induction l with
  | nil => simp [insertEntry]
  | cons e rest ih =>
    obtain ⟨k', v'⟩ := e
    by_cases h : k' = k
    · simp [insertEntry, h]
    · have h' : ¬ k = k' := fun he => h he.symm
      rw [insertEntry, if_neg h, List.map_cons, ih]
      by_cases hk : k ∈ rest.map Prod.fst
      · simp [hk]
      · rw [if_neg hk, if_neg (by simp only [List.map_cons, List.mem_cons, h', false_or]; exact hk)]
        simp

/-- An insertion leaves no name twice. -/
theorem nodup_insertEntry {k : String} {v : α} {l : List (String × α)} (h : (l.map Prod.fst).Nodup) :
    ((insertEntry k v l).map Prod.fst).Nodup := by
  rw [keys_insertEntry]
  split
  · exact h
  · rename_i hk
    rw [List.nodup_append]
    refine ⟨h, by simp, fun a ha b hb => ?_⟩
    rw [List.mem_singleton] at hb
    exact fun he => hk (hb ▸ he ▸ ha)

/-- A new name comes at the end. -/
theorem insertEntry_of_notMem {k : String} {v : α} {l : List (String × α)} (h : k ∉ l.map Prod.fst) :
    insertEntry k v l = l ++ [(k, v)] := by
  induction l with
  | nil => rfl
  | cons e rest ih =>
    rw [List.map_cons, List.mem_cons, not_or] at h
    obtain ⟨hne, hrest⟩ := h
    rw [insertEntry, if_neg (Ne.symm hne), ih hrest, List.cons_append]

/-- Under another name, an insertion changes nothing. -/
theorem lookup_insertEntry_of_ne {k k' : String} (h : k' ≠ k) (v : α) (l : List (String × α)) :
    (insertEntry k v l).lookup k' = l.lookup k' := by
  have hk : (k' == k) = false := beq_eq_false_iff_ne.2 h
  induction l with
  | nil => rw [insertEntry, List.lookup_cons, hk]
  | cons e rest ih =>
    obtain ⟨k₀, v₀⟩ := e
    rw [insertEntry]
    split
    · rename_i he
      subst he
      simp only [List.lookup_cons, hk]
    · simp only [List.lookup_cons, ih]

/-- Under its own name, an insertion is found. -/
theorem lookup_insertEntry_self (k : String) (v : α) (l : List (String × α)) :
    (insertEntry k v l).lookup k = some v := by
  induction l with
  | nil => rw [insertEntry, List.lookup_cons_self]
  | cons e rest ih =>
    obtain ⟨k₀, v₀⟩ := e
    rw [insertEntry]
    split
    · rw [List.lookup_cons_self]
    · rename_i hne
      rw [List.lookup_cons, beq_eq_false_iff_ne.2 (Ne.symm hne), ih]

/-- The map without entries. -/
def empty : OrderedMap α := ⟨[], by simp⟩

instance : Inhabited (OrderedMap α) := ⟨empty⟩

/-- The value under a name. -/
def get? (m : OrderedMap α) (k : String) : Option α := m.entries.lookup k

theorem get?_of_mem (m : OrderedMap α) {k : String} {v : α} (h : (k, v) ∈ m.entries) : m.get? k = some v := by
  obtain ⟨before, after, hm⟩ := List.append_of_mem h
  have hn := m.nodup
  rw [hm, List.map_append, List.map_cons, List.nodup_append] at hn
  refine List.lookup_eq_some_iff.2 ⟨before, after, hm, fun e he => ?_⟩
  have hne := hn.2.2 e.1 (List.mem_map_of_mem he) k List.mem_cons_self
  simpa using Ne.symm hne

/-- In entries without a name twice, what is found under a name is what stands there. -/
theorem lookup_eq_some_iff_mem {l : List (String × α)} (hl : (l.map Prod.fst).Nodup) {k : String} {v : α} :
    l.lookup k = some v ↔ (k, v) ∈ l := by
  constructor
  · intro h
    obtain ⟨before, after, rfl, -⟩ := List.lookup_eq_some_iff.1 h
    simp
  · exact get?_of_mem ⟨l, hl⟩

/-- Is there an entry under a name? -/
def contains (m : OrderedMap α) (k : String) : Bool := (m.get? k).isSome

/-- The names in order. -/
def keys (m : OrderedMap α) : List String := m.entries.map Prod.fst

/-- The number of entries. -/
def size (m : OrderedMap α) : Nat := m.entries.length

/-- Puts a value under a name: in place of the old one, or at the end. -/
def insert (m : OrderedMap α) (k : String) (v : α) : OrderedMap α :=
  ⟨insertEntry k v m.entries, nodup_insertEntry m.nodup⟩

/-- Inserts entries one after the other. -/
def insertAll (m : OrderedMap α) (entries : List (String × α)) : OrderedMap α :=
  entries.foldl (fun m e => m.insert e.1 e.2) m

/-- Entries of new names are put at the end, in their order. -/
theorem entries_insertAll (m : OrderedMap α) {entries : List (String × α)}
    (h : ((m.entries ++ entries).map Prod.fst).Nodup) : (m.insertAll entries).entries = m.entries ++ entries := by
  induction entries generalizing m with
  | nil => simp [insertAll]
  | cons e rest ih =>
    have hm : e.1 ∉ m.entries.map Prod.fst := by
      rw [List.map_append, List.map_cons, List.nodup_append] at h
      intro he
      exact h.2.2 e.1 he e.1 List.mem_cons_self rfl
    have hi : (m.insert e.1 e.2).entries = m.entries ++ [e] := insertEntry_of_notMem hm
    have hr := ih (m.insert e.1 e.2) (by simpa [hi] using h)
    rw [hi, List.append_assoc, List.singleton_append] at hr
    exact hr

/-- Inserts all entries of another map. -/
def extend (m other : OrderedMap α) : OrderedMap α := m.insertAll other.entries

/-- The map of some entries; a name that comes again replaces the value of its entry. -/
def ofList (entries : List (String × α)) : OrderedMap α := empty.insertAll entries

theorem entries_ofList {entries : List (String × α)} (h : (entries.map Prod.fst).Nodup) :
    (ofList entries).entries = entries := entries_insertAll empty h

end OrderedMap

end GatedFormula
