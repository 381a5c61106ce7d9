/-
  JSON values, and their compact text.
  Whole numbers and other numbers are told apart, as their spelling does; the members of an object come in
  the order of their names and no name twice.
-/
import GatedFormula.Number.Text

namespace GatedFormula

/-- A JSON value. -/
inductive Json where
  | null
  | boolean (b : Bool)
  /-- A number spelled without a point and an exponent. -/
  | whole (n : Int)
  | real (x : Float)
  | text (s : String)
  | array (items : List Json)
  | object (members : List (String × Json))
  deriving Inhabited

namespace Json

/-- The member of a name, if the value is an object and has it. -/
def get? : Json → String → Option Json
  | .object members, k => members.lookup k
  | _, _ => none

/-- A character within quotes: short escapes where JSON has them, and numbers for the other controls. -/
def quotedChar (c : Char) : List Char :=
  if c = '"' then "\\\"".toList
  else if c = '\\' then "\\\\".toList
  else if c = '\n' then "\\n".toList
  else if c = '\r' then "\\r".toList
  else if c = '\t' then "\\t".toList
  else if c.toNat = 8 then "\\b".toList
  else if c.toNat = 12 then "\\f".toList
  else if c.toNat < 32 then
    "\\u00".toList ++ (if c.toNat < 16 then ['0'] else []) ++ Nat.toDigits 16 c.toNat
  else [c]

/-- A text in quotes. -/
def quoted (s : String) : String := String.ofList ('"' :: s.toList.flatMap quotedChar ++ ['"'])

/-- The text of a positive number: the fewest digits that read back, with a point from `10 ^ -5` up to
`10 ^ 16` and with an exponent beyond; a whole number has one zero after its point. -/
def magnitudeText (m : Nat) (e : Int) : String :=
  let d := Decimal.shortest m e
  let digits := Nat.toDigits 10 d.digits
  if d.lead < -5 ∨ 16 ≤ d.lead then
    let point := match digits with
      | [] => []
      | [c] => [c]
      | c :: rest => c :: '.' :: rest
    String.ofList point ++ "e" ++ toString d.lead
  else if 0 ≤ d.power then String.ofList (digits ++ List.replicate d.power.toNat '0') ++ ".0"
  else Number.positional d

/-- The text of a number that is not spelled as a whole one. What is no number, or infinite, is null. -/
def realText (x : Float) : String :=
  match Exact.of x with
  | .finite negative m e =>
    (if negative then "-" else "") ++ if m = 0 then "0.0" else magnitudeText m e
  | _ => "null"

mutual
/-- The text of a value without any space. -/
def compact : Json → String
  | .null => "null"
  | .boolean b => if b then "true" else "false"
  | .whole n => toString n
  | .real x => realText x
  | .text s => quoted s
  | .array items => "[" ++ String.intercalate "," (compactItems items) ++ "]"
  | .object members => "\x7b" ++ String.intercalate "," (compactMembers members) ++ "\x7d"

/-- The texts of items. -/
def compactItems : List Json → List String
  | [] => []
  | j :: rest => compact j :: compactItems rest

/-- The texts of members. -/
def compactMembers : List (String × Json) → List String
  | [] => []
  | (k, j) :: rest => (quoted k ++ ":" ++ compact j) :: compactMembers rest
end

end Json

end GatedFormula
