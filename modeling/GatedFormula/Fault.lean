/-
  Faults: why a formula has no value, or why one of its parts cannot be resolved.
  - `Fault` and `Complaint` are the causes, `Fault.message` words them.
  - `Code` numbers the causes; codes fall into categories and have a title and a hint.
-/
import GatedFormula.Number.Position
import GatedFormula.Value.Member

namespace GatedFormula

/-- A number that stands for a cause. -/
structure Code where
  number : Nat
  deriving Repr, DecidableEq, Inhabited

namespace Code

/-- A code as it is written: `EX` and at least four digits. -/
def text (c : Code) : String :=
  let digits := Nat.toDigits 10 c.number
  String.ofList ('E' :: 'X' :: List.replicate (4 - digits.length) '0' ++ digits)

/-- The areas of codes. -/
inductive Category where
  | resolution
  | operation
  | structural
  | host
  deriving Repr, DecidableEq, Inhabited

/-- The area of a code. -/
def category (c : Code) : Category :=
  if 1 ≤ c.number ∧ c.number ≤ 19 then .resolution
  else if 20 ≤ c.number ∧ c.number ≤ 39 then .operation
  else if 40 ≤ c.number ∧ c.number ≤ 59 then .structural
  else .host

/-- What is known about a code. -/
structure Info where
  number : Nat
  title : String
  help : String
  deriving Repr, DecidableEq, Inhabited

/-- The codes in use. -/
def catalogue : List Info :=
  [⟨1, "Identifier not found",
      "Only names that are own keys of the evaluation context can be referenced"⟩,
    ⟨2, "Cannot index undefined",
      "Check that the object being indexed exists before accessing its members"⟩,
    ⟨3, "Invalid index type", "Member keys must be strings or numbers"⟩,
    ⟨4, "Member access denied", "Configure a member check that approves this container and key"⟩,
    ⟨20, "Value is not callable", "Only functions supplied by the host can be called"⟩,
    ⟨21, "Operand type mismatch", "Arithmetic needs two numbers; '+' also accepts two strings"⟩,
    ⟨22, "Unknown operator",
      "The expression tree contains an operator the evaluator does not support"⟩,
    ⟨40, "Empty compound expression", "A compound expression needs at least one element"⟩,
    ⟨41, "Invalid expression node",
      "The parser produced a node kind or shape that is not supported"⟩,
    ⟨60, "Host function failed", "A function supplied through the context returned an error"⟩]

/-- What is known about a code that is not in use. -/
def unknown : Info := ⟨0, "Unknown error", ""⟩

/-- What is known about a code. -/
def info (c : Code) : Info := (catalogue.find? fun i => i.number == c.number).getD unknown

end Code

/-- What a function wants an argument to be. -/
inductive Wanted where
  | text
  | number
  | textOrPattern
  | numberArray
  deriving Repr, DecidableEq, Inhabited

/-- The words for what is wanted. -/
def Wanted.words : Wanted → String
  | .text => "a string"
  | .number => "a number"
  | .textOrPattern => "a string or a pattern"
  | .numberArray => "an array of numbers"

/-- Why a function fails. -/
inductive Complaint where
  /-- An argument, counted from one, is not what is wanted. -/
  | argument (number : Nat) (wanted : Wanted) (got : TypeName)
  /-- An item of an array of numbers is no number. -/
  | item (got : TypeName)
  /-- A method of texts is bound to no text. -/
  | receiver (got : TypeName)
  /-- A pattern that has to work on every match does not. -/
  | notGlobal
  | badLength (length : Position)
  | badCount (count : Position)
  | pattern (fault : PatternFault)
  /-- The host's own words. -/
  | stated (words : String)
  deriving Repr, DecidableEq, Inhabited

/-- The wording of a complaint. -/
def Complaint.message : Complaint → String
  | .argument n wanted got =>
    "argument " ++ toString n ++ " must be " ++ wanted.words ++ " (got " ++ got.name ++ ")"
  | .item got => "array element must be a number (got " ++ got.name ++ ")"
  | .receiver got => "must be called on a string (got " ++ got.name ++ ")"
  | .notGlobal => "pattern must have the g flag"
  | .badLength n => "invalid length " ++ Number.text n.toNumber
  | .badCount n => "invalid count " ++ Number.text n.toNumber
  | .pattern fault => fault.message
  | .stated words => words

/-- Why operands do not suit an operator. -/
inductive Mismatch where
  | neitherNumbersNorTexts (left right : TypeName)
  | notNumbers (left right : TypeName)
  | notNumber (operand : TypeName)
  deriving Repr, DecidableEq, Inhabited

/-- The wording of a mismatch. -/
def Mismatch.message : Mismatch → String
  | .neitherNumbersNorTexts l r =>
    "can only be applied to 2 numbers or 2 strings (got " ++ l.name ++ " and " ++ r.name ++ ")"
  | .notNumbers l r => "cannot be applied to non-number (got " ++ l.name ++ " and " ++ r.name ++ ")"
  | .notNumber t => "cannot be applied to non-number (got " ++ t.name ++ ")"

/-- A cause of failure. -/
inductive Fault where
  /-- A name stands for nothing. -/
  | notFound (name : String)
  /-- A member is read of what is not there. -/
  | readOfUndefined
  /-- A key is neither a text nor a number. -/
  | badKey (type : TypeName)
  /-- No check permits to read a member; container and key are kept as texts. -/
  | denied (container : String) (containerType : TypeName) (key : String) (keyType : TypeName)
  | notCallable (type : TypeName)
  | mismatch (operator : String) (cause : Mismatch)
  | unknownOperator (operator : String)
  | emptySequence
  /-- A node has no known kind, or not the form of its kind. -/
  | badNode (kind : String)
  | failed (function : String) (complaint : Complaint)
  deriving Repr, DecidableEq, Inhabited

namespace Fault

/-- The code of a cause. -/
def code : Fault → Code
  | .notFound _ => ⟨1⟩
  | .readOfUndefined => ⟨2⟩
  | .badKey _ => ⟨3⟩
  | .denied .. => ⟨4⟩
  | .notCallable _ => ⟨20⟩
  | .mismatch .. => ⟨21⟩
  | .unknownOperator _ => ⟨22⟩
  | .emptySequence => ⟨40⟩
  | .badNode _ => ⟨41⟩
  | .failed .. => ⟨60⟩

/-- The wording of a cause without its code. -/
def words : Fault → String
  | .notFound name => "Identifier (" ++ name ++ ") not found"
  | .readOfUndefined => "Cannot index " ++ TypeName.undefined.name
  | .badKey type => "Cannot index with type " ++ type.name
  | .denied container containerType key keyType =>
    "Not allowed to index " ++ container ++ " (type: " ++ containerType.name ++ ") with " ++ key ++
      " (type: " ++ keyType.name ++ ")"
  | .notCallable type => "Cannot call a non-function (type: " ++ type.name ++ ")"
  | .mismatch operator cause => "Cannot perform operation " ++ operator ++ ": " ++ cause.message
  | .unknownOperator operator => "Operator " ++ operator ++ " is unknown"
  | .emptySequence => "Compound expression cannot be empty"
  | .badNode kind => "Expression type " ++ kind ++ " is invalid"
  | .failed function complaint => "Function " ++ function ++ " failed: " ++ complaint.message

/-- The message of a cause: its code and its wording. -/
def message (f : Fault) : String := f.code.text ++ ": " ++ f.words

end Fault

end GatedFormula
