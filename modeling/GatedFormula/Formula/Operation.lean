/-
  What operators do to values.
  Equality goes by sameness and takes any values. Adding takes two numbers or two texts, all other binary
  operators two numbers. The bitwise ones work on words of 32 bits.
-/
import GatedFormula.Fault
import GatedFormula.Formula.Operator
import GatedFormula.Number.Word

namespace GatedFormula

namespace BinaryOperator

/-- The result for two numbers. -/
def onNumbers (o : BinaryOperator) (l r : Float) : Value :=
  match o with
  | .add => .number (l + r)
  | .subtract => .number (l - r)
  | .multiply => .number (l * r)
  | .divide => .number (l / r)
  | .remainder => .number (Number.remainder l r)
  | .bitOr => .number (Number.ofSigned (Number.word l ||| Number.word r))
  | .bitXor => .number (Number.ofSigned (Number.word l ^^^ Number.word r))
  | .bitAnd => .number (Number.ofSigned (Number.word l &&& Number.word r))
  | .shiftLeft => .number (Number.ofSigned (Number.word l <<< Number.shiftCount r))
  | .shiftRight => .number (Number.ofSigned ((Number.word l).sshiftRight (Number.shiftCount r)))
  | .shiftRightUnsigned => .number (Number.ofUnsigned (Number.word l >>> Number.shiftCount r))
  | .less => .boolean (l < r)
  | .greater => .boolean (r < l)
  | .lessOrEqual => .boolean (l ≤ r)
  | .greaterOrEqual => .boolean (r ≤ l)
  | .equal | .identical => .boolean (l == r)
  | .unequal | .notIdentical => .boolean (l != r)

/-- Applies an operator. -/
def apply (o : BinaryOperator) (l r : Value) : Except Fault Value :=
  if o.isEquality then
    .ok (.boolean (if o = .equal ∨ o = .identical then l.same r else !l.same r))
  else
    match l, r with
    | .number a, .number b => .ok (o.onNumbers a b)
    | .text a, .text b =>
      if o.isNumeric then .error (.mismatch o.symbol (.notNumbers .text .text)) else .ok (.text (a ++ b))
    | _, _ =>
      .error (.mismatch o.symbol
        (if o.isNumeric then .notNumbers l.typeName r.typeName
          else .neitherNumbersNorTexts l.typeName r.typeName))

end BinaryOperator

namespace UnaryOperator

/-- The result for a number. -/
def onNumber (o : UnaryOperator) (x : Float) : Value :=
  match o with
  | .negate => .number (-x)
  | .bitNot => .number (Number.ofSigned (~~~Number.word x))
  | .plus | .not => .number x

/-- Applies an operator. -/
def apply (o : UnaryOperator) (v : Value) : Except Fault Value :=
  if o.isNumeric then
    match v with
    | .number x => .ok (o.onNumber x)
    | _ => .error (.mismatch o.symbol (.notNumber v.typeName))
  else .ok (.boolean !v.isTruthy)

end UnaryOperator

/-- Applies the binary operator that a symbol names. -/
def applyBinary (symbol : String) (l r : Value) : Except Fault Value :=
  match BinaryOperator.ofSymbol? symbol with
  | some o => o.apply l r
  | none => .error (.unknownOperator symbol)

/-- Applies the unary operator that a symbol names. -/
def applyUnary (symbol : String) (v : Value) : Except Fault Value :=
  match UnaryOperator.ofSymbol? symbol with
  | some o => o.apply v
  | none => .error (.unknownOperator symbol)

end GatedFormula
