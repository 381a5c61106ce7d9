/-
  Formulas as JSON.
  - `Formula.toJson` writes a node as an object with its tag under `type` and its fields under their names.
  - `Formula.ofJson` reads that form and a second one, an array of the tag and the fields in order. The
    fields `raw`, `computed` and `prefix` may be missing, other members of an object do not matter.
  - A value that is no formula is blamed on a kind by `Formula.blamedKind`.

  Below the top, a number may stand for the tag: that of the kind in the order of `NodeKind.all`.
-/
import GatedFormula.Fault
import GatedFormula.Formula.Basic
import GatedFormula.Json

namespace GatedFormula

namespace Literal

/-- A literal as JSON; JSON has no way to write what is no number, or infinite. -/
def toJson : Literal → Json
  | .boolean b => .boolean b
  | .number n => if n.isFinite then .real n else .null
  | .text s => .text s

/-- The literal that a JSON value writes. -/
def ofJson? : Json → Option Literal
  | .boolean b => some (.boolean b)
  | .whole n => some (.number (Number.ofWhole n))
  | .real x => some (.number x)
  | .text s => some (.text s)
  | _ => none

end Literal

namespace Formula

/-! ## Writing -/

/-- A node as an object. -/
def node (k : NodeKind) (fields : List (String × Json)) : Json :=
  .object (("type", .text k.tag) :: fields)

mutual
/-- A formula as JSON. -/
def toJson : Formula → Json
  | .array elements => node .array [("elements", .array (toJsons elements))]
  | .binary op l r => node .binary [("operator", .text op), ("left", l.toJson), ("right", r.toJson)]
  | .call callee arguments =>
    node .call [("callee", callee.toJson), ("arguments", .array (toJsons arguments))]
  | .sequence body => node .sequence [("body", .array (toJsons body))]
  | .conditional t c a =>
    node .conditional [("test", t.toJson), ("consequent", c.toJson), ("alternate", a.toJson)]
  | .name n => node .name [("name", .text n)]
  | .literal v raw =>
    node .literal (("value", v.toJson) :: match raw with
      | some s => [("raw", .text s)]
      | none => [])
  | .logical op l r => node .logical [("operator", .text op), ("left", l.toJson), ("right", r.toJson)]
  | .member o p computed =>
    node .member [("object", o.toJson), ("property", p.toJson), ("computed", .boolean computed)]
  | .self => node .self []
  | .unary op a isPrefix =>
    node .unary [("operator", .text op), ("argument", a.toJson), ("prefix", .boolean isPrefix)]

/-- Formulas as JSON. -/
def toJsons : List Formula → List Json
  | [] => []
  | f :: rest => f.toJson :: toJsons rest
end

/-! ## Reading -/

/-- What a JSON value is as a part of a node: itself, the formula it writes, or the formulas it lists. -/
structure Part where
  json : Json
  formula? : Option Formula
  formulas? : Option (List Formula)

namespace Part

/-- A text. -/
def text? (p : Part) : Option String :=
  match p.json with
  | .text s => some s
  | _ => none

/-- A truth value. -/
def boolean? (p : Part) : Option Bool :=
  match p.json with
  | .boolean b => some b
  | _ => none

/-- A text that may be null. -/
def optionalText? (p : Part) : Option (Option String) :=
  match p.json with
  | .null => some none
  | .text s => some (some s)
  | _ => none

/-- The kind that a part names as a tag. -/
def kind? (p : Part) : Option NodeKind :=
  match p.json with
  | .text s => NodeKind.ofTag? s
  | .whole n => if n < 0 then none else NodeKind.all[n.toNat]?
  | _ => none

end Part

/-- The field of a name, read by `read`; a default stands for a missing one, if there is a default. -/
def field? {α : Type} (fields : List (String × Part)) (name : String) (default? : Option α)
    (read : Part → Option α) : Option α :=
  match fields.lookup name with
  | some p => read p
  | none => default?

/-- The formula of a kind with some fields. -/
def ofFields? (k : NodeKind) (fields : List (String × Part)) : Option Formula :=
  let text (name : String) := field? fields name none Part.text?
  let formula (name : String) := field? fields name none Part.formula?
  let formulas (name : String) := field? fields name none Part.formulas?
  match k with
  | .array => (formulas "elements").map .array
  | .binary => do some (.binary (← text "operator") (← formula "left") (← formula "right"))
  | .call => do some (.call (← formula "callee") (← formulas "arguments"))
  | .sequence => (formulas "body").map .sequence
  | .conditional => do
    some (.conditional (← formula "test") (← formula "consequent") (← formula "alternate"))
  | .name => (text "name").map .name
  | .literal => do
    let value ← field? fields "value" none fun p => Literal.ofJson? p.json
    some (.literal value (← field? fields "raw" (some none) Part.optionalText?))
  | .logical => do some (.logical (← text "operator") (← formula "left") (← formula "right"))
  | .member => do
    let computed ← field? fields "computed" (some false) Part.boolean?
    some (.member (← formula "object") (← formula "property") computed)
  | .self => some .self
  | .unary => do
    let isPrefix ← field? fields "prefix" (some true) Part.boolean?
    some (.unary (← text "operator") (← formula "argument") isPrefix)

/-- The formula that an object writes. -/
def ofMembers? (members : List (String × Part)) : Option Formula := do
  ofFields? (← (← members.lookup "type").kind?) members

/-- The formula that an array writes: the tag and the fields in order, no more than there are. -/
def ofItems? : List Part → Option Formula
  | [] => none
  | tag :: fields => do
    let k ← tag.kind?
    if fields.length ≤ k.fields.length then ofFields? k (k.fields.zip fields) else none

mutual
/-- What a JSON value is as a part of a node. -/
def part : Json → Part
  | .object members => ⟨.object members, ofMembers? (memberParts members), none⟩
  | .array items => ⟨.array items, ofItems? (itemParts items), (itemParts items).mapM Part.formula?⟩
  | .null => ⟨.null, none, none⟩
  | .boolean b => ⟨.boolean b, none, none⟩
  | .whole n => ⟨.whole n, none, none⟩
  | .real x => ⟨.real x, none, none⟩
  | .text s => ⟨.text s, none, none⟩

/-- The parts of an array. -/
def itemParts : List Json → List Part
  | [] => []
  | j :: rest => part j :: itemParts rest

/-- The parts of an object. -/
def memberParts : List (String × Json) → List (String × Part)
  | [] => []
  | (k, j) :: rest => (k, part j) :: memberParts rest
end

/-- Is the tag at the top a text? -/
def hasNamedTag : Json → Bool
  | .object members => members.any fun m => m.1 == "type" && (match m.2 with | .text _ => true | _ => false)
  | .array (.text _ :: _) => true
  | _ => false

/-- The formula that a JSON value writes. -/
def ofJson? (j : Json) : Option Formula := if hasNamedTag j then (part j).formula? else none

/-! ## Blame -/

/-- The kind a value claims to be: its tag, or the text of what stands in the tag's place. -/
def claimedKind (j : Json) : String :=
  match j.get? "type" with
  | some (.text tag) => tag
  | some other => other.compact
  | none => "undefined"

/-- Does an object claim one of the kinds? -/
def claimsKind (j : Json) : Bool :=
  match j.get? "type" with
  | some (.text tag) => (NodeKind.ofTag? tag).isSome
  | _ => false

mutual
/-- The first kind in a value that no node has. Objects come before what they hold, their members in
order, and what stands under `value` is not looked at. -/
def unknownKind? : Json → Option String
  | .object members =>
    if claimsKind (.object members) then unknownInMembers? members else some (claimedKind (.object members))
  | .array items => unknownInItems? items
  | _ => none

/-- The first unknown kind in the items of an array. -/
def unknownInItems? : List Json → Option String
  | [] => none
  | j :: rest =>
    match unknownKind? j with
    | some k => some k
    | none => unknownInItems? rest

/-- The first unknown kind in the members of an object. -/
def unknownInMembers? : List (String × Json) → Option String
  | [] => none
  | (k, j) :: rest =>
    if k == "value" then unknownInMembers? rest
    else match unknownKind? j with
      | some k => some k
      | none => unknownInMembers? rest
end

/-- The kind to blame for a value that is no formula: the first unknown one in an object, else the one that
the value itself claims. -/
def blamedKind : Json → String
  | .object members => (unknownKind? (.object members)).getD (claimedKind (.object members))
  | j => claimedKind j

/-- Reads a formula. -/
def ofJson (j : Json) : Except Fault Formula :=
  match ofJson? j with
  | some f => .ok f
  | none => .error (.badNode (blamedKind j))

end Formula

end GatedFormula
