/-
  What the standard functions of numbers compute, and what they complain about. The name in a complaint
  has the record's name in front.
-/
import GatedFormula.Method.Argument
import GatedFormula.Number.Elementary

namespace GatedFormula

/-- The function of one number. -/
def UnaryMath.compute : UnaryMath → Float → Float
  | .abs => Float.abs
  | .acos => Float.acos
  | .acosh => Number.arcosh
  | .asin => Float.asin
  | .asinh => Number.arsinh
  | .atan => Float.atan
  | .atanh => Number.artanh
  | .cbrt => Float.cbrt
  | .ceil => Number.ceiled
  | .clz32 => fun x => Number.ofWhole (Number.leadingZeros (Number.word x))
  | .cos => Float.cos
  | .cosh => Float.cosh
  | .exp => Float.exp
  | .expm1 => Number.expMinusOne
  | .floor => Number.floored
  | .fround => Number.toSingle
  | .log => Float.log
  | .log1p => Number.lnOnePlus
  | .log10 => Float.log10
  | .log2 => Float.log2
  | .round => Number.rounded
  | .sign => Number.sign
  | .sin => Float.sin
  | .sinh => Float.sinh
  | .sqrt => Float.sqrt
  | .tan => Float.tan
  | .tanh => Float.tanh
  | .trunc => Number.truncated

/-- The function of two numbers. -/
def BinaryMath.compute : BinaryMath → Float → Float → Float
  | .atan2 => Float.atan2
  | .imul => Number.wordProduct
  | .pow => Number.power

/-- The function of a list of numbers. -/
def ListMath.compute : ListMath → List Float → Float
  | .hypot => Number.diagonal
  | .max => Number.greatest
  | .min => Number.least
  | .sum => Number.total
  | .avg => Number.average

/-- The name of the record that holds these functions. -/
def mathName : String := "Math"

/-- The name of a function in complaints. -/
def inMath (name : String) : String := mathName ++ "." ++ name

/-- Applies a function of one number. -/
def UnaryMath.apply (f : UnaryMath) (args : List Value) : Except Fault Value := do
  .ok (.number (f.compute (← Argument.number (inMath f.name) args 0)))

/-- Applies a function of two numbers. -/
def BinaryMath.apply (f : BinaryMath) (args : List Value) : Except Fault Value := do
  let x ← Argument.number (inMath f.name) args 0
  let y ← Argument.number (inMath f.name) args 1
  .ok (.number (f.compute x y))

/-- Applies a function of a list of numbers. -/
def ListMath.apply (f : ListMath) (args : List Value) : Except Fault Value := do
  .ok (.number (f.compute (← Argument.numbers (inMath f.name) args 0)))

end GatedFormula
