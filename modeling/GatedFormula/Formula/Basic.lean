/-
  Formulas: the trees that are evaluated and analysed.
  `NodeKind` names the kinds of nodes and their fields, as tagged data spells them.
-/
import GatedFormula.Value.Basic

namespace GatedFormula

/-- The value of a literal. -/
inductive Literal where
  | boolean (b : Bool)
  | number (n : Float)
  | text (s : String)
  deriving Inhabited

/-- The value that a literal stands for. -/
def Literal.toValue : Literal → Value
  | .boolean b => .boolean b
  | .number n => .number n
  | .text s => .text s

/-- A formula. -/
inductive Formula where
  | array (elements : List Formula)
  | binary (operator : String) (left right : Formula)
  | call (callee : Formula) (arguments : List Formula)
  /-- Formulas one after the other; the last one gives the value. -/
  | sequence (body : List Formula)
  | conditional (test consequent alternate : Formula)
  /-- A name, looked up in the context. -/
  | name (n : String)
  /-- A literal, with the text it was written as, if that was kept. -/
  | literal (value : Literal) (raw : Option String)
  | logical (operator : String) (left right : Formula)
  /-- A member of an object. A computed property is evaluated to get the key; otherwise the property has
  to be a name, and the name is the key. -/
  | member (object property : Formula) (computed : Bool)
  /-- The context itself. -/
  | self
  | unary (operator : String) (argument : Formula) (isPrefix : Bool)
  deriving Inhabited

/-- The kinds of nodes. -/
inductive NodeKind where
  | array | binary | call | sequence | conditional | name | literal | logical | member | self | unary
  deriving Repr, DecidableEq, Inhabited

namespace NodeKind

/-- All kinds, in the order that numbers them. -/
def all : List NodeKind :=
  [.array, .binary, .call, .sequence, .conditional, .name, .literal, .logical, .member, .self, .unary]

/-- The tag of a kind. -/
def tag : NodeKind → String
  | .array => "ArrayExpression"
  | .binary => "BinaryExpression"
  | .call => "CallExpression"
  | .sequence => "Compound"
  | .conditional => "ConditionalExpression"
  | .name => "Identifier"
  | .literal => "Literal"
  | .logical => "LogicalExpression"
  | .member => "MemberExpression"
  | .self => "ThisExpression"
  | .unary => "UnaryExpression"

/-- The kind of a tag. -/
def ofTag? (s : String) : Option NodeKind := all.find? fun k => k.tag == s

/-- The fields of a node of a kind, in order. -/
def fields : NodeKind → List String
  | .array => ["elements"]
  | .binary | .logical => ["operator", "left", "right"]
  | .call => ["callee", "arguments"]
  | .sequence => ["body"]
  | .conditional => ["test", "consequent", "alternate"]
  | .name => ["name"]
  | .literal => ["value", "raw"]
  | .member => ["object", "property", "computed"]
  | .self => []
  | .unary => ["operator", "argument", "prefix"]

end NodeKind

namespace Formula

/-- The kind of a formula. -/
def kind : Formula → NodeKind
  | .array _ => .array
  | .binary .. => .binary
  | .call .. => .call
  | .sequence _ => .sequence
  | .conditional .. => .conditional
  | .name _ => .name
  | .literal .. => .literal
  | .logical .. => .logical
  | .member .. => .member
  | .self => .self
  | .unary .. => .unary

/-- The name, if the formula is one. -/
def name? : Formula → Option String
  | .name n => some n
  | _ => none

end Formula

end GatedFormula
