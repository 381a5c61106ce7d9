/-
  What validation makes of the call sites of an analysis.
  - `Signature.Describes` says which call sites are calls of a function: the name and every step of the path agree.
    A path with an unknown step agrees with none.
  - `Buckets.ofCalls_eq`: the two buckets of a signature are its calls with accepted arguments and its other calls.
  - `lookup_validate`: the buckets under a key depend on the signature under the key only.
  Main statement: `validate_buckets`.
-/
import GatedFormula.Signature.Validation
import Mathlib.Data.List.Forall2
import Mathlib.Data.List.Perm.Basic

namespace GatedFormula

/-- A known step agrees with the step of a path. -/
inductive PathKey.Fits : PathKey → Segment → Prop
  | name (s : String) : Fits (.name s) (.name s)
  | number {x y : Float} (h : x == y) : Fits (.number x) (.number y)
  | boolean (b : Bool) : Fits (.boolean b) (.boolean b)

/-- A call site is a call of the function whose signature has some key: it has the name of the signature, or else the
key for a name, and the steps of the path, one by one. -/
def Signature.Describes (s : Signature) (key : String) (c : CallSite) : Prop :=
  c.name = s.name.getD key ∧ List.Forall₂ PathKey.Fits s.path c.path

theorem PathKey.isStep_iff {k : PathKey} {s : Segment} : k.isStep s ↔ k.Fits s := by
  constructor
  · intro h
    cases k with
    | name a =>
      cases s with
      | name b => obtain rfl := eq_of_beq h; exact .name a
      | _ => cases h
    | number x =>
      cases s with
      | number y => exact .number h
      | _ => cases h
    | boolean a =>
      cases s with
      | boolean b => obtain rfl := eq_of_beq h; exact .boolean a
      | _ => cases h
  · intro h
    cases h with
    | name s => exact beq_self_eq_true s
    | number h => exact h
    | boolean b => exact beq_self_eq_true b

theorem Signature.isPath_iff {keys : List PathKey} {path : List Segment} :
    Signature.isPath keys path ↔ List.Forall₂ PathKey.Fits keys path := by
  induction keys generalizing path with
  | nil => cases path <;> simp [isPath]
  | cons k keys ih => cases path <;> simp [isPath, PathKey.isStep_iff, ih]

theorem Signature.matchesCall_iff {s : Signature} {key : String} {c : CallSite} :
    s.matchesCall key c ↔ s.Describes key c := by
  rw [matchesCall, Bool.and_eq_true, beq_iff_eq, isPath_iff, Describes]

instance (s : Signature) (key : String) (c : CallSite) : Decidable (s.Describes key c) :=
  decidable_of_iff _ Signature.matchesCall_iff

theorem PathKey.Fits.known {k : PathKey} {s : Segment} (h : k.Fits s) : s.isUnknown = false := by
  cases h <;> rfl

theorem Signature.known_of_isPath {keys : List PathKey} {path : List Segment}
    (h : List.Forall₂ PathKey.Fits keys path) : path.any Segment.isUnknown = false := by
  induction h with
  | nil => rfl
  | cons hk _ ih => rw [List.any_cons, hk.known, ih, Bool.false_or]

/-- A call site with an unknown step is a call of no function that has a signature. -/
theorem Signature.Describes.known {s : Signature} {key : String} {c : CallSite} (h : s.Describes key c) :
    c.path.any Segment.isUnknown = false := known_of_isPath h.2

namespace Buckets

/-- Buckets behind others. -/
def append (a b : Buckets) : Buckets := ⟨a.valid ++ b.valid, a.invalid ++ b.invalid⟩

instance : Append Buckets := ⟨append⟩

variable {key : String} {s : Signature} {calls : List CallSite}

/-- Putting call sites into buckets adds the calls with accepted arguments to one and the other calls to the
other. -/
theorem foldl_add (calls : List CallSite) (b : Buckets) :
    calls.foldl (add key s) b =
      ⟨b.valid ++ (calls.filter fun c => s.Describes key c ∧ s.accepts c.args).map CallSite.args,
        b.invalid ++ (calls.filter fun c => s.Describes key c ∧ ¬ s.accepts c.args).map CallSite.args⟩ := by
  induction calls generalizing b with
  | nil => simp
  | cons c rest ih =>
    rw [List.foldl_cons, ih]
    by_cases hd : s.Describes key c
    · by_cases ha : s.accepts c.args <;> simp [add, Signature.matchesCall_iff, hd, ha]
    · simp [add, Signature.matchesCall_iff, hd]

theorem ofCalls_eq :
    ofCalls key s calls =
      ⟨(calls.filter fun c => s.Describes key c ∧ s.accepts c.args).map CallSite.args,
        (calls.filter fun c => s.Describes key c ∧ ¬ s.accepts c.args).map CallSite.args⟩ :=
  foldl_add calls empty

theorem ofCalls_append (calls' : List CallSite) :
    ofCalls key s (calls ++ calls') = ofCalls key s calls ++ ofCalls key s calls' := by
  simp only [ofCalls_eq, List.filter_append, List.map_append]
  rfl

/-- The buckets hold all calls, each one once. -/
theorem perm_ofCalls :
    ((ofCalls key s calls).valid ++ (ofCalls key s calls).invalid).Perm
      ((calls.filter fun c => s.Describes key c).map CallSite.args) := by
  have hsplit := List.filter_append_perm (fun c => s.accepts c.args) (calls.filter fun c => s.Describes key c)
  rw [ofCalls_eq, ← List.map_append]
  exact .map _ (by simpa [List.filter_filter, Bool.and_comm] using hsplit)

/-- Call sites with an unknown step make no difference. -/
theorem ofCalls_known :
    ofCalls key s (calls.filter fun c => !c.path.any Segment.isUnknown) = ofCalls key s calls := by
  have hknown (check : CallSite → Prop) [DecidablePred check] :
      ((calls.filter fun c => !c.path.any Segment.isUnknown).filter fun c => s.Describes key c ∧ check c) =
        calls.filter fun c => s.Describes key c ∧ check c := by
    rw [List.filter_filter]
    refine List.filter_congr fun c _ => ?_
    by_cases hd : s.Describes key c
    · rw [hd.known, Bool.not_false, Bool.and_true]
    · simp [hd]
  rw [ofCalls_eq, ofCalls_eq, hknown, hknown]

end Buckets

variable {table : SignatureTable} {a : Analysis}

/-- The buckets under a key depend only on the signature under it. -/
theorem lookup_validate (key : String) :
    (validate table a).lookup key = (table.get? key).map fun s => Buckets.ofCalls key s a.calls := by
  unfold validate OrderedMap.get?
  induction table.entries with
  | nil => rfl
  | cons e rest ih =>
    rw [List.map_cons, List.lookup_cons, List.lookup_cons]
    cases hk : key == e.1 with
    | true => obtain rfl := eq_of_beq hk; rfl
    | false => exact ih

theorem validate_append (a' : Analysis) :
    validate table (a ++ a') =
      List.zipWith (fun x y => (x.1, x.2 ++ y.2)) (validate table a) (validate table a') := by
  rw [validate, validate, validate, List.zipWith_map, List.zipWith_self]
  exact List.map_congr_left fun e _ => congrArg (Prod.mk e.1) (Buckets.ofCalls_append a'.calls)

/-- **Validation sorts the calls of every signature.** The result has the keys of the table, in order. Under each key
stand the argument lists of the calls of the function, in the order of the call sites, those that the signature
accepts apart from the others: all calls are there, each one once, and none that has an unknown step. The results
for two analyses one after the other are those for each, put together under each key. What stands under a key
does not depend on other keys. -/
theorem validate_buckets (table : SignatureTable) (a : Analysis) :
    (validate table a).map Prod.fst = table.keys ∧
    (∀ key s, table.get? key = some s → ∃ b, (validate table a).lookup key = some b ∧
      b.valid = (a.calls.filter fun c => s.Describes key c ∧ s.accepts c.args).map CallSite.args ∧
      b.invalid = (a.calls.filter fun c => s.Describes key c ∧ ¬ s.accepts c.args).map CallSite.args ∧
      (b.valid ++ b.invalid).Perm ((a.calls.filter fun c => s.Describes key c).map CallSite.args)) ∧
    validate table { a with calls := a.calls.filter fun c => !c.path.any Segment.isUnknown } = validate table a ∧
    (∀ a' : Analysis, validate table (a ++ a') =
      List.zipWith (fun x y => (x.1, x.2 ++ y.2)) (validate table a) (validate table a')) ∧
    (∀ (table' : SignatureTable) (key : String), table'.get? key = table.get? key →
      (validate table' a).lookup key = (validate table a).lookup key) := by
  refine ⟨?_, ?_, ?_, validate_append, ?_⟩
  · rw [validate, List.map_map]
    rfl
  · intro key s hs
    refine ⟨Buckets.ofCalls key s a.calls, ?_, ?_, ?_, Buckets.perm_ofCalls⟩
    · rw [lookup_validate, hs, Option.map_some]
    · rw [Buckets.ofCalls_eq]
    · rw [Buckets.ofCalls_eq]
  · rw [validate, validate]
    exact List.map_congr_left fun e _ => congrArg (Prod.mk e.1) Buckets.ofCalls_known
  · intro table' key h
    rw [lookup_validate, lookup_validate, h]

/-- Calls of `Math.max` with a text and with a number, one of some other `max`, and one of a `max` by its bare name:
the first two are in the buckets of `Math.max`, whether or not the table has a signature for the last. -/
theorem validate_buckets_max :
    let s : Signature := { args := .positional [.number], name := some "max", path := [.name "Math"] }
    let table : SignatureTable := .ofList [("Math.max", s), ("max", { args := .positional [.any] })]
    let table' : SignatureTable := .ofList [("Math.max", s)]
    let calls : List CallSite := [⟨"max", [.name "Math"], [.value (.text "x")]⟩, ⟨"max", [.unknown], [.unknown]⟩,
      ⟨"max", [.name "Math"], [.value (.number 1)]⟩, ⟨"max", [], [.value (.number 1)]⟩]
    table.get? "Math.max" = some s ∧ ∃ b, (validate table ⟨calls, []⟩).lookup "Math.max" = some b ∧
      b.valid = [[.value (.number 1)]] ∧ b.invalid = [[.value (.text "x")]] ∧
      (table'.get? "Math.max" = table.get? "Math.max" ∧
        (validate table' ⟨calls, []⟩).lookup "Math.max" = some b) := by
  intro s table table' calls
  have hs : table.get? "Math.max" = some s := rfl
  have hs' : table'.get? "Math.max" = table.get? "Math.max" := rfl
  obtain ⟨-, hbuckets, -, -, hkey⟩ := validate_buckets table ⟨calls, []⟩
  obtain ⟨b, hb, hvalid, hinvalid, -⟩ := hbuckets "Math.max" s hs
  exact ⟨hs, b, hb, hvalid.trans rfl, hinvalid.trans rfl, hs', (hkey table' "Math.max" hs').trans hb⟩

end GatedFormula
