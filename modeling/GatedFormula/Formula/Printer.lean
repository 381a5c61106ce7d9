/-
  The text of a formula. It is written without brackets of its own, so it does not always read back.
-/
import GatedFormula.Formula.Basic
import GatedFormula.Text.Quoted

namespace GatedFormula

/-- The text of a literal. -/
def Literal.show : Literal → String
  | .boolean b => if b then "true" else "false"
  | .number n => Number.text n
  | .text s => Text.quoted s

namespace Formula

mutual
/-- The text of a formula. -/
def toText : Formula → String
  | .array elements => "[" ++ String.intercalate ", " (toTexts elements) ++ "]"
  | .binary op l r => l.toText ++ " " ++ op ++ " " ++ r.toText
  | .call callee arguments => callee.toText ++ "(" ++ String.intercalate ", " (toTexts arguments) ++ ")"
  | .sequence body => String.intercalate ", " (toTexts body)
  | .conditional t c a => t.toText ++ " ? " ++ c.toText ++ " : " ++ a.toText
  | .name n => n
  | .literal v _ => v.show
  | .logical op l r => l.toText ++ " " ++ op ++ " " ++ r.toText
  | .member o p computed =>
    if computed then o.toText ++ "[" ++ p.toText ++ "]" else o.toText ++ "." ++ p.toText
  | .self => "this"
  | .unary op a _ => op ++ a.toText

/-- The texts of formulas. -/
def toTexts : List Formula → List String
  | [] => []
  | f :: rest => f.toText :: toTexts rest
end

end Formula

end GatedFormula
