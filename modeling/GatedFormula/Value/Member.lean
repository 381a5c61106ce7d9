/-
  Members of values and the keys that name them.
  - `Key.text` and `Key.index?` are the two ways to understand a key: records go by the text, arrays and
    texts by the index.
  - `Value.stored?` finds a member, `Value.member` gives it out, a function bound to what it was read from.
-/
import GatedFormula.Value.Basic

namespace GatedFormula

/-- A key of a member. -/
inductive Key where
  | name (s : String)
  | number (n : Float)
  deriving Inhabited

namespace Key

/-- The text of a key. -/
def text : Key → String
  | .name s => s
  | .number n => Number.text n

/-- The type of a key. -/
def typeName : Key → TypeName
  | .name _ => .text
  | .number _ => .number

/-- The largest index. -/
def lastIndex : Nat := twoTo 64 - 1

/-- The index of a numeric key: a whole number from zero up to `2 ^ 64`, which counts as the largest
index. -/
def index? : Key → Option Nat
  | .name _ => none
  | .number n =>
    match Exact.of n with
    | .finite negative m e =>
      let whole := Exact.wholeMagnitude m e
      if Exact.isWhole m e && (!negative || m == 0) && whole ≤ twoTo 64 then some (min whole lastIndex)
      else none
    | _ => none

end Key

namespace Value

/-- The key that a value stands for, if it is a text or a number. -/
def key? : Value → Option Key
  | .text s => some (.name s)
  | .number n => some (.number n)
  | _ => none

/-- The member that a value holds under a key. A text holds its characters under their indices, and the
methods of all texts under their names. -/
def stored? : Value → Key → Option Value
  | .record _ members, k => members.lookup k.text
  | .array _ items, k => k.index?.bind fun i => items[i]?
  | .text _, .name n => (TextMethod.named? n).map fun m => .function (.method m) none
  | .text s, .number n =>
    (Key.number n).index?.bind fun i => s.toList[i]?.map fun c => .text (String.singleton c)
  | _, _ => none

/-- Binds a function to a receiver, whatever it was bound to; other values stay. -/
def bound (receiver : Value) : Value → Value
  | .function f _ => .function f (some receiver)
  | v => v

/-- What reading a member gives. -/
def member (v : Value) (k : Key) : Value :=
  match v.stored? k with
  | some m => bound v m
  | none => .undefined

end Value

end GatedFormula
