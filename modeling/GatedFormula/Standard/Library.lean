/-
  The standard functions and the records that hold them.
  - `Value.toNumber` converts any value to a number.
  - `StandardFunction.apply` gives the result of a standard function.
  - `Standard.context` is the context of the three standard records.
-/
import GatedFormula.Context
import GatedFormula.Standard.Math

namespace GatedFormula

/-- The number that a value converts to. An array goes by its text, what has no number is no number. -/
def Value.toNumber : Value → Float
  | .undefined => Number.nan
  | .number x => x
  | .boolean b => if b then 1 else 0
  | .text s => Number.ofText s
  | .array id items => Number.ofText (Value.array id items).toText
  | .record .. | .function .. | .pattern .. => Number.nan

namespace StandardFunction

/-- The name in complaints of the function that makes patterns. -/
def regexName : String := "String.regex"

/-- Makes a pattern of a source and of flags, which may be missing. -/
def makePattern (args : List Value) (site : Place) : Except Fault Value := do
  let source ← Argument.text regexName args 0
  let flags ← Argument.textOr regexName args 1 []
  match Pattern.make (String.ofList source) (String.ofList flags) with
  | .ok p => .ok (.pattern site p)
  | .error e => .error (.failed regexName (.pattern e))

/-- The result of a standard function. `draw` is the number that chance gives, and what is made anew
takes the identity `site`. -/
def apply (f : StandardFunction) (draw : Float) (args : List Value) (site : Place) : Except Fault Value :=
  match f with
  | .random => .ok (.number draw)
  | .unary f => f.apply args
  | .binary f => f.apply args
  | .list f => f.apply args
  | .regex => makePattern args site
  | .toText => .ok (.text (Argument.get args 0).toText)
  | .toNumber => .ok (.number (Argument.get args 0).toNumber)

end StandardFunction

namespace Standard

/-- The functions of numbers, in order. -/
def mathFunctions : List StandardFunction :=
  .random :: UnaryMath.all.map .unary ++ BinaryMath.all.map .binary ++ ListMath.all.map .list

/-- The function for patterns. -/
def textFunctions : List StandardFunction := [.regex]

/-- The functions that convert values. -/
def convertFunctions : List StandardFunction := [.toText, .toNumber]

/-- The members of a record of functions. Each function is made anew, at a child of the record's place. -/
def members (id : Place) (fs : List StandardFunction) : OrderedMap Value :=
  .ofList (fs.zipIdx.map fun (f, i) => (f.name, .function (.standard (id.child i) f) none))

/-- The standard records with their names. -/
def records : List (String × List StandardFunction) :=
  [(mathName, mathFunctions), ("String", textFunctions), ("Convert", convertFunctions)]

/-- A record of standard functions, made anew. -/
def record (id : Place) (fs : List StandardFunction) : Value := .ofMap id (members id fs)

/-- The context of the standard records, made anew. -/
def context (id : Place) : Context :=
  ⟨id, .ofList (records.zipIdx.map fun ((name, fs), i) => (name, record (id.child i) fs))⟩

end Standard

end GatedFormula
