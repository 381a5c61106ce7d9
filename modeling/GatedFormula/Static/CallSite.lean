/-
  Call sites as they are known without evaluating anything.
  - `Descriptor` says what is known of an argument, `Segment` what is known of a step to a function.
  - `CallSite` is a call by name, path and arguments, with its text.
  - `Descriptor.alike` compares; what is unknown is like nothing, not even itself.
-/
import GatedFormula.Value.Basic
import GatedFormula.Text.Quoted

namespace GatedFormula

/-- A step on the way to a function. -/
inductive Segment where
  /-- Known only when the formula is evaluated. -/
  | unknown
  | name (s : String)
  | number (n : Float)
  | boolean (b : Bool)
  deriving Inhabited

namespace Segment

/-- Is the step unknown? -/
def isUnknown : Segment → Bool
  | .unknown => true
  | _ => false

/-- The step of a value; arrays, records and the like are no steps. -/
def ofValue : Value → Segment
  | .text s => .name s
  | .number n => .number n
  | .boolean b => .boolean b
  | _ => .unknown

/-- The text of a step. -/
def text : Segment → String
  | .unknown => "<runtime>"
  | .name s => s
  | .number n => Number.text n
  | .boolean b => if b then "true" else "false"

/-- Likeness of steps. -/
def alike : Segment → Segment → Bool
  | .name s, .name t => s == t
  | .number m, .number n => m == n
  | .boolean a, .boolean b => a == b
  | _, _ => false

end Segment

/-- What is known of an argument. -/
inductive Descriptor where
  | value (v : Value)
  /-- An array of which some part is a call. -/
  | array (items : List Descriptor)
  /-- A call, by name, path and arguments. -/
  | call (name : String) (path : List Segment) (args : List Descriptor)
  /-- Known only when the formula is evaluated. -/
  | unknown
  deriving Inhabited

/-- A call in a formula. -/
structure CallSite where
  name : String
  /-- The steps to the function, from the outside in; none for a function called by its bare name. -/
  path : List Segment
  args : List Descriptor
  deriving Inhabited

/-- The dotted name of a function. -/
def qualifiedName (name : String) (path : List Segment) : String :=
  String.intercalate "." (path.map Segment.text ++ [name])

namespace Descriptor

/-- Is nothing known? -/
def isUnknown : Descriptor → Bool
  | .unknown => true
  | _ => false

/-- The value, if it is known. -/
def value? : Descriptor → Option Value
  | .value v => some v
  | _ => none

/-- Is it a call? -/
def isCall : Descriptor → Bool
  | .call .. => true
  | _ => false

mutual
/-- The text of what is known. -/
def text : Descriptor → String
  | .value (.text s) => Text.quoted s
  | .value v => v.toText
  | .array items => "[" ++ String.intercalate ", " (texts items) ++ "]"
  | .call name path args => qualifiedName name path ++ "(" ++ String.intercalate ", " (texts args) ++ ")"
  | .unknown => "<runtime>"

/-- The texts of several. -/
def texts : List Descriptor → List String
  | [] => []
  | d :: rest => text d :: texts rest
end

/-- Likeness of paths. -/
def pathsAlike : List Segment → List Segment → Bool
  | [], [] => true
  | s :: ss, t :: ts => s.alike t && pathsAlike ss ts
  | _, _ => false

mutual
/-- Likeness. -/
def alike : Descriptor → Descriptor → Bool
  | .value v, .value w => v.alike w
  | .array as, .array bs => allAlike as bs
  | .call n p as, .call m q bs => n == m && allAlike as bs && pathsAlike p q
  | _, _ => false

/-- Likeness item by item. -/
def allAlike : List Descriptor → List Descriptor → Bool
  | [], [] => true
  | a :: as, b :: bs => alike a b && allAlike as bs
  | _, _ => false
end

end Descriptor

namespace CallSite

/-- A call site as an argument. -/
def toDescriptor (c : CallSite) : Descriptor := .call c.name c.path c.args

/-- The dotted name of the function. -/
def qualified (c : CallSite) : String := qualifiedName c.name c.path

/-- The text of a call site. -/
def text (c : CallSite) : String := c.toDescriptor.text

/-- Likeness of call sites. -/
def alike (c d : CallSite) : Bool := c.toDescriptor.alike d.toDescriptor

end CallSite

end GatedFormula
