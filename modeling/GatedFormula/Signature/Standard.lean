/-
  The signatures of the standard functions, under their dotted names.
-/
import GatedFormula.Signature.Basic
import GatedFormula.Standard.Library

namespace GatedFormula.Standard

/-- The types of the arguments of a standard function. -/
def argTypes : StandardFunction → List ArgType
  | .random => []
  | .unary _ => [.number]
  | .binary _ => [.number, .number]
  | .list _ => [.numberArray]
  | .regex => [.text, .text]
  | .toText | .toNumber => [.any]

/-- The number of arguments a function needs, where that is not the number of its types. -/
def requiredOf : StandardFunction → Option Nat
  | .regex => some 1
  | _ => none

/-- The signature of a function in the record of some name. -/
def signature (record : String) (f : StandardFunction) : Signature :=
  { args := .positional (argTypes f), name := some f.name, path := [.name record], required := requiredOf f }

/-- The signatures of the functions in a record. -/
def signaturesOf (record : String) (fs : List StandardFunction) : SignatureTable :=
  .ofList (fs.map fun f => (record ++ "." ++ f.name, signature record f))

/-- The signatures of all standard functions. -/
def signatures : SignatureTable :=
  ((signaturesOf "Convert" convertFunctions).extend (signaturesOf mathName mathFunctions)).extend
    (signaturesOf "String" textFunctions)

end GatedFormula.Standard
