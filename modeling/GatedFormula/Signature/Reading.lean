/-
  Signature tables as JSON: an object of signatures.
  A signature is an object, of which only the argument types have to be there, or an array of its fields in
  order, which may end after the types. The first thing wrong, in the order of the data, is the fault of
  the table; only an unknown tag of a type is told.
-/
import GatedFormula.Json
import GatedFormula.Number.Word
import GatedFormula.Signature.Basic

namespace GatedFormula

/-- Why JSON is no signature table. -/
inductive TableFault where
  | unknownTag (tag : String)
  | malformed
  deriving Repr, DecidableEq, Inhabited

/-- The wording of a fault, where there is one. -/
def TableFault.message? : TableFault → Option String
  | .unknownTag tag => some ("unknown argument type tag '" ++ tag ++ "'")
  | .malformed => none

namespace Signature

/-- The type that a JSON value names. -/
def typeOf : Json → Except TableFault ArgType
  | .text tag =>
    match ArgType.ofTag? tag with
    | some t => .ok t
    | none => .error (.unknownTag tag)
  | _ => .error .malformed

/-- A list of types. -/
def typesOf : Json → Except TableFault (List ArgType)
  | .array items => items.mapM typeOf
  | _ => .error .malformed

/-- A step of a path. -/
def stepOf : Json → Except TableFault PathKey
  | .boolean b => .ok (.boolean b)
  | .whole n => .ok (.number (Number.ofWhole n))
  | .real x => .ok (.number x)
  | .text s => .ok (.name s)
  | _ => .error .malformed

/-- A path. -/
def pathOf : Json → Except TableFault (List PathKey)
  | .array items => items.mapM stepOf
  | _ => .error .malformed

/-- A name, or null for none. -/
def nameOf : Json → Except TableFault (Option String)
  | .null => .ok none
  | .text s => .ok (some s)
  | _ => .error .malformed

/-- A count, or null for none. -/
def countOf : Json → Except TableFault (Option Nat)
  | .null => .ok none
  | .whole n => if 0 ≤ n ∧ n < twoTo 64 then .ok (some n.toNat) else .error .malformed
  | _ => .error .malformed

/-- A truth value. -/
def flagOf : Json → Except TableFault Bool
  | .boolean b => .ok b
  | _ => .error .malformed

/-- A signature on the way, its types not read yet. -/
structure Draft where
  signature : Signature
  hasTypes : Bool

/-- Reads a field into a draft; other fields do not matter. -/
def readField (d : Draft) (field : String) (j : Json) : Except TableFault Draft :=
  match field with
  | "name" => do .ok { d with signature.name := ← nameOf j }
  | "path" => do .ok { d with signature.path := ← pathOf j }
  | "args" => do
    let types ← typesOf j
    .ok { signature := { d.signature with args := .positional types }, hasTypes := true }
  | "requiredArgsCount" => do .ok { d with signature.required := ← countOf j }
  | "functionCallArgValid" => do .ok { d with signature.acceptsCalls := ← flagOf j }
  | "runtimeValueValid" => do .ok { d with signature.acceptsUnknown := ← flagOf j }
  | _ => .ok d

/-- The fields of a signature in order. -/
def fields : List String :=
  ["name", "path", "args", "requiredArgsCount", "functionCallArgValid", "runtimeValueValid"]

/-- Reads fields one after the other. The types have to be among them. -/
def ofFields (members : List (String × Json)) : Except TableFault Signature := do
  let d ← members.foldlM (fun d m => readField d m.1 m.2) ⟨{ args := .positional [] }, false⟩
  if d.hasTypes then .ok d.signature else .error .malformed

/-- Reads a signature. -/
def ofJson : Json → Except TableFault Signature
  | .object members => ofFields members
  | .array items => do
    let s ← ofFields (fields.zip items)
    if items.length ≤ fields.length then .ok s else .error .malformed
  | _ => .error .malformed

end Signature

/-- Reads a table. -/
def SignatureTable.ofJson : Json → Except TableFault SignatureTable
  | .object members => do
    .ok (.ofList (← members.mapM fun m => do .ok (m.1, ← Signature.ofJson m.2)))
  | _ => .error .malformed

end GatedFormula
