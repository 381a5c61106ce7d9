/-
  Values: what names stand for, what reading a member gives, and what functions take and give.
  - Arrays, records and patterns have an identity, which is the place where they were made.
  - `Value.isTruthy` decides tests, `Value.text` writes a value.
  - `Value.same` compares things by identity, `Value.alike` by what they hold.
-/
import GatedFormula.Number.Text
import GatedFormula.Pattern.Basic
import GatedFormula.OrderedMap
import GatedFormula.Value.Function

namespace GatedFormula

/-- A value. -/
inductive Value where
  /-- What is not there. -/
  | undefined
  | number (n : Float)
  | text (s : String)
  | boolean (b : Bool)
  | array (id : Place) (items : List Value)
  /-- Members under names, in the order in which the names came. -/
  | record (id : Place) (members : List (String × Value))
  /-- A function, bound to what it was read from. -/
  | function (f : Function) (receiver : Option Value)
  | pattern (id : Place) (p : Pattern)
  deriving Inhabited

/-- The names that diagnostics and signatures have for the types of values. -/
inductive TypeName where
  | undefined
  | number
  | text
  | boolean
  | object
  | function
  deriving Repr, DecidableEq, Inhabited

/-- The word for a type. -/
def TypeName.name : TypeName → String
  | .undefined => "undefined"
  | .number => "number"
  | .text => "string"
  | .boolean => "boolean"
  | .object => "object"
  | .function => "function"

namespace Value

/-- The type of a value. -/
def typeName : Value → TypeName
  | .undefined => .undefined
  | .number _ => .number
  | .text _ => .text
  | .boolean _ => .boolean
  | .array .. | .record .. | .pattern .. => .object
  | .function .. => .function

/-- Is nothing there? -/
def isUndefined : Value → Bool
  | .undefined => true
  | _ => false

/-- Does a value pass as true? What is not there, false, zero, no number and the empty text do not. -/
def isTruthy : Value → Bool
  | .undefined => false
  | .number n => n != 0 && !n.isNaN
  | .text s => s != ""
  | .boolean b => b
  | .array .. | .record .. | .function .. | .pattern .. => true

/-- The number, if the value is one. -/
def number? : Value → Option Float
  | .number n => some n
  | _ => none

/-- The text, if the value is one. -/
def text? : Value → Option String
  | .text s => some s
  | _ => none

/-- The items, if the value is an array. -/
def items? : Value → Option (List Value)
  | .array _ items => some items
  | _ => none

/-- The function, if the value is one. -/
def function? : Value → Option Function
  | .function f _ => some f
  | _ => none

/-- The record of a map. -/
def ofMap (id : Place) (m : OrderedMap Value) : Value := .record id m.entries

mutual
/-- The text of a value. The items of an array are joined by commas. -/
def toText : Value → String
  | .undefined => "undefined"
  | .number n => Number.text n
  | .text s => s
  | .boolean b => if b then "true" else "false"
  | .array _ items => String.intercalate "," (itemTexts items)
  | .record .. => "[object Object]"
  | .function f _ => "function " ++ f.name ++ "()"
  | .pattern _ p => p.text

/-- The texts of items; an item that is not there leaves an empty one. -/
def itemTexts : List Value → List String
  | [] => []
  | .undefined :: rest => "" :: itemTexts rest
  | v :: rest => toText v :: itemTexts rest
end

/-- Sameness: numbers, texts and truth values are the same if they are equal, all else if its identity is
equal. A function is the same whatever it is bound to. -/
def same : Value → Value → Bool
  | .undefined, .undefined => true
  | .number a, .number b => a == b
  | .text a, .text b => a == b
  | .boolean a, .boolean b => a == b
  | .array a _, .array b _ => a == b
  | .record a _, .record b _ => a == b
  | .function f _, .function g _ => f == g
  | .pattern a _, .pattern b _ => a == b
  | _, _ => false

mutual
/-- Likeness: arrays are alike item by item, records name by name in any order, patterns in source and
flags; all else is alike if it is the same. -/
def alike : Value → Value → Bool
  | .undefined, .undefined => true
  | .number a, .number b => a == b
  | .text a, .text b => a == b
  | .boolean a, .boolean b => a == b
  | .array _ as, .array _ bs => itemsAlike as bs
  | .record _ as, .record _ bs => as.length == bs.length && membersAlike as bs
  | .function f _, .function g _ => f == g
  | .pattern _ p, .pattern _ q => p.alike q
  | _, _ => false

/-- Are two lists alike item by item? -/
def itemsAlike : List Value → List Value → Bool
  | [], [] => true
  | a :: as, b :: bs => alike a b && itemsAlike as bs
  | _, _ => false

/-- Has each member one that is alike under its name in the other list? -/
def membersAlike : List (String × Value) → List (String × Value) → Bool
  | [], _ => true
  | (k, a) :: rest, bs =>
    (match bs.lookup k with
      | some b => alike a b
      | none => false) && membersAlike rest bs
end

end Value

end GatedFormula
