/-
  Signatures: what calls of a function have to look like.
  - `Signature.matchesCall` says whether a call site is one of the function: the name and every step of the
    path have to be the same.
  - `Signature.accepts` says whether arguments are right. An argument beyond the required ones may be
    explicitly missing; nested calls and unknown values count only where the signature allows them.
-/
import GatedFormula.OrderedMap
import GatedFormula.Static.CallSite

namespace GatedFormula

/-- What an argument has to be. -/
inductive ArgType where
  | any
  | text
  | number
  | boolean
  | anyArray
  | textArray
  | numberArray
  | booleanArray
  /-- A check of its own. -/
  | predicate (check : Descriptor → Bool)
  deriving Inhabited

namespace ArgType

/-- The types that have a tag. -/
def tagged : List (String × ArgType) :=
  [("any", .any), ("string", .text), ("number", .number), ("boolean", .boolean), ("any[]", .anyArray),
    ("string[]", .textArray), ("number[]", .numberArray), ("boolean[]", .booleanArray)]

/-- The type of a tag. -/
def ofTag? (tag : String) : Option ArgType := tagged.lookup tag

/-- The tag of a type. -/
def tag : ArgType → String
  | .any => "any"
  | .text => "string"
  | .number => "number"
  | .boolean => "boolean"
  | .anyArray => "any[]"
  | .textArray => "string[]"
  | .numberArray => "number[]"
  | .booleanArray => "boolean[]"
  | .predicate _ => "<predicate>"

/-- Is it known to be a value of a type? -/
def hasType (t : TypeName) : Descriptor → Bool
  | .value v => v.typeName == t
  | _ => false

/-- Is it known to be an array of values of a type? -/
def holds (t : TypeName) : Descriptor → Bool
  | .value (.array _ items) => items.all fun v => v.typeName == t
  | .array items => items.all (hasType t)
  | _ => false

/-- Is an argument of the type? -/
def accepts : ArgType → Descriptor → Bool
  | .any, _ => true
  | .text, d => hasType .text d
  | .number, d => hasType .number d
  | .boolean, d => hasType .boolean d
  | .anyArray, .array _ => true
  | .anyArray, .value (.array ..) => true
  | .anyArray, _ => false
  | .textArray, d => holds .text d
  | .numberArray, d => holds .number d
  | .booleanArray, d => holds .boolean d
  | .predicate check, d => check d

end ArgType

/-- What the arguments of a call have to be. -/
inductive ArgSpec where
  /-- One type for each position. -/
  | positional (types : List ArgType)
  /-- One check of all arguments; nothing else counts then. -/
  | predicate (check : List Descriptor → Bool)
  deriving Inhabited

/-- The text of what arguments have to be. -/
def ArgSpec.text : ArgSpec → String
  | .positional types => "[" ++ String.intercalate ", " (types.map ArgType.tag) ++ "]"
  | .predicate _ => "<predicate>"

/-- A step of the path to a function. -/
inductive PathKey where
  | boolean (b : Bool)
  | number (n : Float)
  | name (s : String)
  deriving Inhabited

/-- Is a step of a call site this one? -/
def PathKey.isStep : PathKey → Segment → Bool
  | .name a, .name b => a == b
  | .number a, .number b => a == b
  | .boolean a, .boolean b => a == b
  | _, _ => false

/-- What calls of a function have to look like. -/
structure Signature where
  args : ArgSpec
  /-- The function's name; without one, the key of the signature in its table is the name. -/
  name : Option String := none
  path : List PathKey := []
  /-- The number of arguments that have to be there; without it, all positions. -/
  required : Option Nat := none
  /-- Are nested calls accepted as arguments? -/
  acceptsCalls : Bool := false
  /-- Are unknown values accepted as arguments? -/
  acceptsUnknown : Bool := false
  deriving Inhabited

namespace Signature

/-- The number of arguments that have to be there. -/
def requiredCount (s : Signature) : Nat :=
  match s.required, s.args with
  | some n, _ => n
  | none, .positional types => types.length
  | none, .predicate _ => 0

/-- Are the steps of a call site those of a path? -/
def isPath : List PathKey → List Segment → Bool
  | [], [] => true
  | k :: ks, s :: ss => k.isStep s && isPath ks ss
  | _, _ => false

/-- Is a call site one of the function, whose signature has some key? -/
def matchesCall (s : Signature) (key : String) (c : CallSite) : Bool :=
  c.name == s.name.getD key && isPath s.path c.path

/-- Is the argument at a position, counted from zero, right for a type? -/
def acceptsAt (s : Signature) (i : Nat) (d : Descriptor) (t : ArgType) : Bool :=
  match d with
  | .value .undefined => s.requiredCount ≤ i || t.accepts d
  | .call .. => s.acceptsCalls
  | .unknown => s.acceptsUnknown
  | _ => t.accepts d

/-- Are the arguments from a position on right for the types from there on? More arguments than types do
no harm. -/
def acceptsFrom (s : Signature) : Nat → List Descriptor → List ArgType → Bool
  | i, d :: ds, t :: ts => s.acceptsAt i d t && acceptsFrom s (i + 1) ds ts
  | _, _, _ => true

/-- Are arguments right? -/
def accepts (s : Signature) (args : List Descriptor) : Bool :=
  match s.args with
  | .predicate check => check args
  | .positional types => s.requiredCount ≤ args.length && s.acceptsFrom 0 args types

end Signature

/-- Signatures under keys, in order. -/
abbrev SignatureTable := OrderedMap Signature

end GatedFormula
