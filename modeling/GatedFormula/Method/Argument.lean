/-
  Arguments of functions. A missing argument counts as one that is not there, and nothing is converted:
  an argument of another type than the wanted one is a complaint of the function.
-/
import GatedFormula.Fault
import GatedFormula.Pattern.Template

namespace GatedFormula.Argument

/-- The argument of a number, counted from zero. -/
def get (args : List Value) (i : Nat) : Value := args[i]?.getD .undefined

/-- The complaint about an argument. -/
def bad (function : String) (args : List Value) (i : Nat) (wanted : Wanted) : Fault :=
  .failed function (.argument (i + 1) wanted (get args i).typeName)

/-- A text. -/
def text (function : String) (args : List Value) (i : Nat) : Except Fault (List Char) :=
  match get args i with
  | .text s => .ok s.toList
  | _ => .error (bad function args i .text)

/-- A text that may be missing. -/
def textOr (function : String) (args : List Value) (i : Nat) (default : List Char) :
    Except Fault (List Char) :=
  match get args i with
  | .undefined => .ok default
  | _ => text function args i

/-- A number. -/
def number (function : String) (args : List Value) (i : Nat) : Except Fault Float :=
  match get args i with
  | .number x => .ok x
  | _ => .error (bad function args i .number)

/-- A position, which is a number that may be missing. -/
def position (function : String) (args : List Value) (i : Nat) (default : Position) :
    Except Fault Position :=
  match get args i with
  | .undefined => .ok default
  | .number x => .ok (.ofNumber x)
  | _ => .error (bad function args i .number)

/-- The numbers of an array. -/
def numbersOf (function : String) : List Value → Except Fault (List Float)
  | [] => .ok []
  | .number x :: rest => (numbersOf function rest).map (x :: ·)
  | v :: _ => .error (.failed function (.item v.typeName))

/-- An array of numbers. -/
def numbers (function : String) (args : List Value) (i : Nat) : Except Fault (List Float) :=
  match get args i with
  | .array _ items => numbersOf function items
  | _ => .error (bad function args i .numberArray)

/-- What to look for. -/
structure Needle where
  pattern : Pattern
  /-- Was a text given, and not a pattern? -/
  isText : Bool

/-- A pattern to look for, or a text, for which the pattern stands that matches it literally. -/
def needle (function : String) (args : List Value) (i : Nat) : Except Fault Needle :=
  match get args i with
  | .text s =>
    match Pattern.literal s with
    | .ok p => .ok ⟨p, true⟩
    | .error e => .error (.failed function (.pattern e))
  | .pattern _ p => .ok ⟨p, false⟩
  | _ => .error (bad function args i .textOrPattern)

/-- A replacement text. With a text to look for it is taken word for word. -/
def Needle.template (n : Needle) (replacement : List Char) : List Pattern.Piece :=
  if n.isText then Pattern.verbatim replacement else Pattern.pieces replacement

end GatedFormula.Argument
