/-
  The journal: what evaluation, analysis and validation report about their course.
  `Entry.level` and `Entry.message` give the form in which entries are logged.
-/
import GatedFormula.Fault
import GatedFormula.Formula.Basic

namespace GatedFormula

/-- How much a journal entry goes into detail. -/
inductive Level where
  | debug
  | trace
  deriving Repr, DecidableEq, Inhabited

/-- The word for a level. -/
def Level.name : Level → String
  | .debug => "DEBUG"
  | .trace => "TRACE"

/-- One entry of the journal. -/
inductive Entry where
  | evaluating (kind : NodeKind)
  | evaluated (nodes calls : Nat)
  | evaluationFailed (fault : Fault)
  | calling (name : String) (arguments : Nat)
  | readDenied (container : String) (containerType : TypeName) (key : String) (keyType : TypeName)
  | analyzing (kind : NodeKind)
  /-- A call site, by its text. -/
  | callSite (text : String)
  | analyzed (calls faults : Nat)
  | validated (calls signatures : Nat)
  deriving Repr, DecidableEq, Inhabited

namespace Entry

/-- The level of an entry. -/
def level : Entry → Level
  | .calling .. | .readDenied .. | .callSite _ => .trace
  | _ => .debug

/-- The wording of an entry. -/
def message : Entry → String
  | .evaluating kind => "Evaluating " ++ kind.tag ++ " expression"
  | .evaluated nodes calls =>
    "Evaluation finished: " ++ toString nodes ++ " nodes, " ++ toString calls ++ " function calls"
  | .evaluationFailed fault => "Evaluation failed: " ++ fault.message
  | .calling name n => "Calling " ++ name ++ " with " ++ toString n ++ " arguments"
  | .readDenied container containerType key keyType =>
    "member read denied: " ++ container ++ " [" ++ containerType.name ++ "] with " ++ key ++
      " [" ++ keyType.name ++ "]"
  | .analyzing kind => "Analyzing " ++ kind.tag ++ " expression"
  | .callSite text => "Found call site " ++ text
  | .analyzed calls faults =>
    "Analysis finished: " ++ toString calls ++ " function calls, " ++ toString faults ++ " errors"
  | .validated calls signatures =>
    "Validated " ++ toString calls ++ " call sites against " ++ toString signatures ++ " signatures"

/-- An entry as a line. -/
def line (e : Entry) : String := e.level.name ++ " " ++ e.message

end Entry

end GatedFormula
