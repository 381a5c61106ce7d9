/-
  Finding one text in another.
  - `first?` and `last?` find where a list stands in another, of characters or of bytes.
  - A text is searched by its bytes in UTF-8: `byteOffset` gives the byte at which a place starts, and `charIndex` the
    place at a byte that was found. `indexFrom?`, `includesFrom`, `startsAt`, `lastIndex?` and `ends` search so.
  - `pieces` cuts a text at the occurrences of another, found from the left and apart.
-/

namespace GatedFormula.Text

variable {α : Type} [BEq α]

/-- Does `p` stand at the start of `s`? -/
def startsWith (p s : List α) : Bool := p.isPrefixOf s

/-- The first place from the start of `s` on where `p` occurs. -/
def first? (p : List α) : List α → Option Nat
  | [] => if p.isEmpty then some 0 else none
  | c :: rest => if startsWith p (c :: rest) then some 0 else (first? p rest).map (· + 1)

/-- The last place where `p` occurs. -/
def last? (p : List α) : List α → Option Nat
  | [] => if p.isEmpty then some 0 else none
  | c :: rest =>
    match last? p rest with
    | some k => some (k + 1)
    | none => if startsWith p (c :: rest) then some 0 else none

/-! ## Searching bytes -/

/-- The bytes of a text. -/
def utf8 (s : List Char) : List UInt8 := s.flatMap String.utf8EncodeChar

/-- The byte at which the character at a place starts; the end of the text where there is no such character. -/
def byteOffset : List Char → Nat → Nat
  | c :: s, k + 1 => c.utf8Size + byteOffset s k
  | _, _ => 0

/-- How many characters of a text start before a byte. -/
def charIndex : List Char → Nat → Nat
  | c :: s, byte => if byte = 0 then 0 else charIndex s (byte - c.utf8Size) + 1
  | [], _ => 0

/-- The bytes of a text from a place on. -/
def bytesFrom (s : List Char) (k : Nat) : List UInt8 := (utf8 s).drop (byteOffset s k)

/-- The first place from place `k` on where `p` occurs, counted in characters. -/
def indexFrom? (p s : List Char) (k : Nat) : Option Nat :=
  (first? (utf8 p) (bytesFrom s k)).map fun i => charIndex s (byteOffset s k + i)

/-- Does `p` occur from place `k` on? -/
def includesFrom (p s : List Char) (k : Nat) : Bool := (first? (utf8 p) (bytesFrom s k)).isSome

/-- Does `p` stand at place `k`? -/
def startsAt (p s : List Char) (k : Nat) : Bool := startsWith (utf8 p) (bytesFrom s k)

/-- The last place where `p` occurs, counted in characters. -/
def lastIndex? (p s : List Char) : Option Nat := (last? (utf8 p) (utf8 s)).map (charIndex s)

/-- Does `s` end with `p`? -/
def ends (p s : List Char) : Bool := (utf8 p).isSuffixOf (utf8 s)

/-! ## Cutting -/

/-- Cuts `s` at the occurrences of a text that is not empty. The pieces between them are collected
character by character, `skip` counts what is left of the occurrence just met. -/
def piecesAfter (p : List Char) : (skip : Nat) → (piece : List Char) → List Char → List (List Char)
  | _, piece, [] => [piece.reverse]
  | skip + 1, piece, _ :: rest => piecesAfter p skip piece rest
  | 0, piece, c :: rest =>
    if startsWith p (c :: rest) then piece.reverse :: piecesAfter p (p.length - 1) [] rest
    else piecesAfter p 0 (c :: piece) rest

/-- Cuts a text at the occurrences of a text that is not empty; the empty one cuts between all
characters. -/
def pieces (p s : List Char) : List (List Char) :=
  if p.isEmpty then s.map fun c => [c] else piecesAfter p 0 [] s

end GatedFormula.Text
