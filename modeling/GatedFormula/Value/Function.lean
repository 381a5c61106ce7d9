/-
  Functions that a formula can meet:
  - the methods of texts, which all texts share;
  - the standard functions, made anew with every standard record that holds them;
  - the functions of a host, known here by an identity and a name only.
-/
import GatedFormula.Place

namespace GatedFormula

/-- The methods that every text has. -/
inductive TextMethod where
  | charAt | concat | endsWith | includes | indexOf | lastIndexOf | matched | padEnd | padStart
  | repeated | replace | replaceAll | search | slice | split | startsWith | substring
  | toLower | toUpper | trim | trimEnd | trimStart
  deriving Repr, DecidableEq, Inhabited

namespace TextMethod

/-- All methods, in the order in which they are listed. -/
def all : List TextMethod :=
  [.charAt, .concat, .endsWith, .includes, .indexOf, .lastIndexOf, .matched, .padEnd, .padStart,
    .repeated, .replace, .replaceAll, .search, .slice, .split, .startsWith, .substring,
    .toLower, .toUpper, .trim, .trimEnd, .trimStart]

/-- The name under which a text shows a method. -/
def name : TextMethod → String
  | .charAt => "charAt"
  | .concat => "concat"
  | .endsWith => "endsWith"
  | .includes => "includes"
  | .indexOf => "indexOf"
  | .lastIndexOf => "lastIndexOf"
  | .matched => "match"
  | .padEnd => "padEnd"
  | .padStart => "padStart"
  | .repeated => "repeat"
  | .replace => "replace"
  | .replaceAll => "replaceAll"
  | .search => "search"
  | .slice => "slice"
  | .split => "split"
  | .startsWith => "startsWith"
  | .substring => "substring"
  | .toLower => "toLowerCase"
  | .toUpper => "toUpperCase"
  | .trim => "trim"
  | .trimEnd => "trimEnd"
  | .trimStart => "trimStart"

/-- The method of a name. -/
def named? (n : String) : Option TextMethod := all.find? fun m => m.name == n

end TextMethod

/-- Standard functions of one number. -/
inductive UnaryMath where
  | abs | acos | acosh | asin | asinh | atan | atanh | cbrt | ceil | clz32 | cos | cosh | exp | expm1
  | floor | fround | log | log1p | log10 | log2 | round | sign | sin | sinh | sqrt | tan | tanh | trunc
  deriving Repr, DecidableEq, Inhabited

/-- Standard functions of two numbers. -/
inductive BinaryMath where
  | atan2 | imul | pow
  deriving Repr, DecidableEq, Inhabited

/-- Standard functions of a list of numbers. -/
inductive ListMath where
  | hypot | max | min | sum | avg
  deriving Repr, DecidableEq, Inhabited

namespace UnaryMath

/-- All of them, in the order in which they are listed. -/
def all : List UnaryMath :=
  [.abs, .acos, .acosh, .asin, .asinh, .atan, .atanh, .cbrt, .ceil, .clz32, .cos, .cosh, .exp, .expm1,
    .floor, .fround, .log, .log1p, .log10, .log2, .round, .sign, .sin, .sinh, .sqrt, .tan, .tanh, .trunc]

/-- The name of a function. -/
def name : UnaryMath → String
  | .abs => "abs"
  | .acos => "acos"
  | .acosh => "acosh"
  | .asin => "asin"
  | .asinh => "asinh"
  | .atan => "atan"
  | .atanh => "atanh"
  | .cbrt => "cbrt"
  | .ceil => "ceil"
  | .clz32 => "clz32"
  | .cos => "cos"
  | .cosh => "cosh"
  | .exp => "exp"
  | .expm1 => "expm1"
  | .floor => "floor"
  | .fround => "fround"
  | .log => "log"
  | .log1p => "log1p"
  | .log10 => "log10"
  | .log2 => "log2"
  | .round => "round"
  | .sign => "sign"
  | .sin => "sin"
  | .sinh => "sinh"
  | .sqrt => "sqrt"
  | .tan => "tan"
  | .tanh => "tanh"
  | .trunc => "trunc"

end UnaryMath

namespace BinaryMath

/-- All of them, in the order in which they are listed. -/
def all : List BinaryMath := [.atan2, .imul, .pow]

/-- The name of a function. -/
def name : BinaryMath → String
  | .atan2 => "atan2"
  | .imul => "imul"
  | .pow => "pow"

end BinaryMath

namespace ListMath

/-- All of them, in the order in which they are listed. -/
def all : List ListMath := [.hypot, .max, .min, .sum, .avg]

/-- The name of a function. -/
def name : ListMath → String
  | .hypot => "hypot"
  | .max => "max"
  | .min => "min"
  | .sum => "sum"
  | .avg => "avg"

end ListMath

/-- The standard functions. -/
inductive StandardFunction where
  /-- A number from zero up to one, drawn by the host. -/
  | random
  | unary (f : UnaryMath)
  | binary (f : BinaryMath)
  | list (f : ListMath)
  /-- Makes a pattern of a source and flags. -/
  | regex
  | toText
  | toNumber
  deriving Repr, DecidableEq, Inhabited

/-- The name of a standard function within its record. -/
def StandardFunction.name : StandardFunction → String
  | .random => "random"
  | .unary f => f.name
  | .binary f => f.name
  | .list f => f.name
  | .regex => "regex"
  | .toText => "toString"
  | .toNumber => "toNumber"

/-- A function. Two functions are the same one exactly if they are equal. -/
inductive Function where
  | host (id : Place) (name : String)
  | method (m : TextMethod)
  | standard (id : Place) (f : StandardFunction)
  deriving Repr, DecidableEq, Inhabited

/-- The name by which a function is shown. -/
def Function.name : Function → String
  | .host _ name => name
  | .method m => m.name
  | .standard _ f => f.name

end GatedFormula
