/-
  Values of JSON data: null is what is not there, an object is a record of its members.
  The parts of an array or a record take the children of its place as their identities.
-/
import GatedFormula.Json
import GatedFormula.Number.Word
import GatedFormula.Value.Basic

namespace GatedFormula.Value

mutual
/-- The value of JSON data at a place. -/
def ofJson : Json → Place → Value
  | .null, _ => .undefined
  | .boolean b, _ => .boolean b
  | .whole n, _ => .number (Number.ofWhole n)
  | .real x, _ => .number x
  | .text s, _ => .text s
  | .array items, p => .array p (ofItems items p 0)
  | .object members, p => .ofMap p (.ofList (ofMembers members p 0))

/-- The values of items, at children of a place from a number on. -/
def ofItems : List Json → Place → Nat → List Value
  | [], _, _ => []
  | j :: rest, p, i => ofJson j (p.child i) :: ofItems rest p (i + 1)

/-- The values of members, at children of a place from a number on. -/
def ofMembers : List (String × Json) → Place → Nat → List (String × Value)
  | [], _, _ => []
  | (k, j) :: rest, p, i => (k, ofJson j (p.child i)) :: ofMembers rest p (i + 1)
end

end GatedFormula.Value
