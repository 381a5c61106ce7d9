/-
  Operators and their symbols.
  A formula carries an operator as text; `ofSymbol?` finds the operator that a text names, if any.
-/

namespace GatedFormula

/-- Operators of two operands. -/
inductive BinaryOperator where
  | add | subtract | multiply | divide | remainder
  | bitOr | bitXor | bitAnd | shiftLeft | shiftRight | shiftRightUnsigned
  | less | greater | lessOrEqual | greaterOrEqual
  | equal | identical | unequal | notIdentical
  deriving Repr, DecidableEq, Inhabited

namespace BinaryOperator

/-- All operators. -/
def all : List BinaryOperator :=
  [.add, .subtract, .multiply, .divide, .remainder, .bitOr, .bitXor, .bitAnd, .shiftLeft, .shiftRight,
    .shiftRightUnsigned, .less, .greater, .lessOrEqual, .greaterOrEqual, .equal, .identical, .unequal,
    .notIdentical]

/-- The symbol of an operator. -/
def symbol : BinaryOperator → String
  | .add => "+"
  | .subtract => "-"
  | .multiply => "*"
  | .divide => "/"
  | .remainder => "%"
  | .bitOr => "|"
  | .bitXor => "^"
  | .bitAnd => "&"
  | .shiftLeft => "<<"
  | .shiftRight => ">>"
  | .shiftRightUnsigned => ">>>"
  | .less => "<"
  | .greater => ">"
  | .lessOrEqual => "<="
  | .greaterOrEqual => ">="
  | .equal => "=="
  | .identical => "==="
  | .unequal => "!="
  | .notIdentical => "!=="

/-- The operator of a symbol. -/
def ofSymbol? (s : String) : Option BinaryOperator := all.find? fun o => o.symbol == s

/-- Does the operator test for equality? -/
def isEquality : BinaryOperator → Bool
  | .equal | .identical | .unequal | .notIdentical => true
  | _ => false

/-- Does the operator take numbers only? Adding takes two texts as well. -/
def isNumeric (o : BinaryOperator) : Bool := !o.isEquality && o != .add

end BinaryOperator

/-- Operators of one operand. -/
inductive UnaryOperator where
  | negate | plus | bitNot | not
  deriving Repr, DecidableEq, Inhabited

namespace UnaryOperator

/-- All operators. -/
def all : List UnaryOperator := [.negate, .plus, .bitNot, .not]

/-- The symbol of an operator. -/
def symbol : UnaryOperator → String
  | .negate => "-"
  | .plus => "+"
  | .bitNot => "~"
  | .not => "!"

/-- The operator of a symbol. -/
def ofSymbol? (s : String) : Option UnaryOperator := all.find? fun o => o.symbol == s

/-- Does the operator take numbers only? -/
def isNumeric (o : UnaryOperator) : Bool := o != .not

end UnaryOperator

/-- Operators that need their right operand only sometimes. -/
inductive LogicalOperator where
  | and | or
  deriving Repr, DecidableEq, Inhabited

namespace LogicalOperator

/-- All operators. -/
def all : List LogicalOperator := [.and, .or]

/-- The symbol of an operator. -/
def symbol : LogicalOperator → String
  | .and => "&&"
  | .or => "||"

/-- The operator of a symbol. -/
def ofSymbol? (s : String) : Option LogicalOperator := all.find? fun o => o.symbol == s

/-- Does a left operand that passes as `truthy` leave the result to the right one? -/
def needsRight : LogicalOperator → (truthy : Bool) → Bool
  | .and, truthy => truthy
  | .or, truthy => !truthy

end LogicalOperator

end GatedFormula
